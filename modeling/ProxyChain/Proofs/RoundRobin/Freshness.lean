import Mathlib.Tactic.LinearCombination
import ProxyChain.Proofs.Sequence
import ProxyChain.RoundRobin.Fingerprint

/-!
# ProxyChain.Proofs.RoundRobin.Freshness

**Synthetic ids are fresh.** The search behind `syntheticId` is over a hash, so that it finds
an id that is not used rests on how the hash treats the digits of the counter: the ids of one tag
with the counters from 1000 to 9999 are all different (`countedId_inj`). Then the search cannot
run out of tries (`syntheticId_not_mem`). So are the ids with counters of three digits, because one
digit more could not tell them apart again (`countedId_inj_of_three`).

Mixing a unit into a state adds a small offset to it, because it flips low bits only, and then
multiplies by the factor. So two runs of four digits from one state can only meet where a
combination of four small offset differences with powers of the factor vanishes modulo 2 ^ 32.
The factor is 2 ^ 24 + 403, and modulo 2 ^ 24 such a combination is a number in base 403 whose
digits can be read off; few candidates are left, and none of them vanishes.
-/

namespace ProxyChain.RoundRobin

/-! ### Hexadecimal digits -/

theorem hexDigit_inj {m n : Nat} (h : Text.hexDigit m = Text.hexDigit n) : m % 16 = n % 16 := by
  have hdigits : ∀ a < 16, ∀ b < 16, Nat.digitChar a = Nat.digitChar b → a = b := by decide
  exact hdigits _ (Nat.mod_lt m (by decide)) _ (Nat.mod_lt n (by decide)) h

theorem hexDigits_inj : ∀ {width m n : Nat}, m < 16 ^ width → n < 16 ^ width →
    Text.hexDigits width m = Text.hexDigits width n → m = n
  | 0, m, n, hm, hn, _ => by omega
  | width + 1, m, n, hm, hn, h => by
      rw [Text.hexDigits, Text.hexDigits] at h
      obtain ⟨hhigh, hlow⟩ := List.append_inj' h rfl
      have hrest : m / 16 = n / 16 :=
        hexDigits_inj (by rw [Nat.pow_succ] at hm; omega) (by rw [Nat.pow_succ] at hn; omega) hhigh
      have hdigit := hexDigit_inj (List.cons.inj hlow).1
      omega

theorem hex32_inj {a b : UInt32} (h : Text.hex32 a = Text.hex32 b) : a = b :=
  UInt32.toNat_inj.1
    (hexDigits_inj a.toNat_lt b.toNat_lt (String.ofList_inj.1 h))

/-! ### One digit -/

/-- The unit of a decimal digit. -/
def digitUnit (d : Nat) : UInt16 :=
  (48 + d).toUInt16

/-- What mixing a digit in adds to a state before it is multiplied. -/
def digitOffset (state d : Nat) : Int :=
  ((state ^^^ (48 + d) : Nat) : Int) - state

section

variable {state d e : Nat} (hd : d < 10) (he : e < 10)

include hd

/-- A digit flips bits of the lowest six only. -/
theorem digitOffset_bounds : -63 ≤ digitOffset state d ∧ digitOffset state d ≤ 63 := by
  have hblock : (state ^^^ (48 + d)) / 2 ^ 6 = state / 2 ^ 6 := by
    rw [Nat.xor_div_two_pow, Nat.div_eq_of_lt (by omega : 48 + d < 2 ^ 6), Nat.xor_zero]
  rw [digitOffset]
  omega

include he

/-- Two digits flip the same bits but for the lowest four. -/
theorem digitOffset_sub_bounds :
    -15 ≤ digitOffset state d - digitOffset state e ∧
      digitOffset state d - digitOffset state e ≤ 15 := by
  have hblock : (state ^^^ (48 + d)) / 2 ^ 4 = (state ^^^ (48 + e)) / 2 ^ 4 := by
    rw [Nat.xor_div_two_pow, Nat.xor_div_two_pow, (by omega : (48 + d) / 2 ^ 4 = 3),
      (by omega : (48 + e) / 2 ^ 4 = 3)]
  rw [digitOffset, digitOffset]
  omega

theorem digitOffset_cross_bounds {other : Nat} :
    -126 ≤ digitOffset state d - digitOffset other e ∧
      digitOffset state d - digitOffset other e ≤ 126 := by
  have hstate : -63 ≤ digitOffset state d ∧ digitOffset state d ≤ 63 := digitOffset_bounds hd
  have hother : -63 ≤ digitOffset other e ∧ digitOffset other e ≤ 63 := digitOffset_bounds he
  omega

omit hd he

theorem digitOffset_inj (h : digitOffset state d = digitOffset state e) : d = e := by
  have hxor : state ^^^ (48 + d) = state ^^^ (48 + e) := by
    rw [digitOffset, digitOffset] at h
    omega
  have hcancel := congrArg (state ^^^ ·) hxor
  simp only [← Nat.xor_assoc, Nat.xor_self, Nat.zero_xor] at hcancel
  omega

end

theorem toNat_mixUnit (state : UInt32) {d : Nat} (hd : d < 10) :
    ((mixUnit state (digitUnit d)).toNat : Int) =
      (state.toNat + digitOffset state.toNat d) * 16777619 % 4294967296 := by
  have hunit : (digitUnit d).toUInt32.toNat = 48 + d := by
    rw [UInt16.toNat_toUInt32, digitUnit, Nat.toUInt16, UInt16.toNat_ofNat']
    omega
  have hxor : (state.toNat + digitOffset state.toNat d : Int) =
      ((state.toNat ^^^ (48 + d) : Nat) : Int) := by
    rw [digitOffset]
    omega
  rw [mixUnit, UInt32.toNat_mul, UInt32.toNat_xor, hunit, hxor, hashFactor]
  rfl

/-! ### Four digits -/

/-- Whether the one candidate for offset differences with this first one and this quotient by
2 ^ 24 is out of bounds, or does not vanish, or vanishes throughout. -/
def candidateFails (first quotient : Int) : Bool :=
  let rest := 16777216 * (first * 403 ^ 3 / 16777216 + quotient) - first * 403 ^ 3
  let second := (rest + 81204) / 403 ^ 2
  let third := (rest - second * 403 ^ 2 + 201) / 403
  let fourth := rest - second * 403 ^ 2 - third * 403
  decide (second < -126 ∨ 126 < second ∨ third < -126 ∨ 126 < third ∨ fourth < -126 ∨
    126 < fourth ∨ (first = 0 ∧ second = 0 ∧ third = 0 ∧ fourth = 0) ∨
    (first * 16777619 ^ 3 + second * 16777619 ^ 2 + third * 16777619 + fourth) % 4294967296 ≠ 0)

theorem all_candidates_fail :
    ∀ i < 31, ∀ k < 4, candidateFails ((i : Nat) - 15) ((k : Nat) - 1) = true := by
  decide +kernel

/-- Small offset differences vanish together or not at all. -/
theorem offsets_eq_zero {first second third fourth : Int}
    (h₁ : -15 ≤ first ∧ first ≤ 15) (h₂ : -126 ≤ second ∧ second ≤ 126)
    (h₃ : -126 ≤ third ∧ third ≤ 126) (h₄ : -126 ≤ fourth ∧ fourth ≤ 126)
    (h : (first * 16777619 ^ 3 + second * 16777619 ^ 2 + third * 16777619 + fourth)
      % 4294967296 = 0) :
    first = 0 ∧ second = 0 ∧ third = 0 ∧ fourth = 0 := by
  -- Modulo 2 ^ 24 the factor is 403.
  obtain ⟨quotient, hquotient⟩ : ∃ quotient,
      first * 403 ^ 3 + second * 403 ^ 2 + third * 403 + fourth = 16777216 * quotient :=
    ⟨(first * 403 ^ 3 + second * 403 ^ 2 + third * 403 + fourth) / 16777216, by omega⟩
  obtain ⟨k, hk⟩ : ∃ k, k = quotient - first * 403 ^ 3 / 16777216 := ⟨_, rfl⟩
  have hfails := all_candidates_fail (first + 15).toNat (by omega) (k + 1).toNat (by omega)
  rw [(by omega : (((first + 15).toNat : Nat) : Int) - 15 = first),
    (by omega : (((k + 1).toNat : Nat) : Int) - 1 = k)] at hfails
  have hrest : 16777216 * (first * 403 ^ 3 / 16777216 + k) - first * 403 ^ 3 =
      second * 403 ^ 2 + third * 403 + fourth := by omega
  have hsecond : (second * 403 ^ 2 + third * 403 + fourth + 81204) / 403 ^ 2 = second := by omega
  have hthird : (second * 403 ^ 2 + third * 403 + fourth - second * 403 ^ 2 + 201) / 403 =
      third := by omega
  have hfourth : second * 403 ^ 2 + third * 403 + fourth - second * 403 ^ 2 - third * 403 =
      fourth := by omega
  simp only [candidateFails, hrest, hsecond, hthird, hfourth, decide_eq_true_eq] at hfails
  omega

/-- What four steps, each given by how far two states are apart after it, come to together. -/
theorem offsets_vanish {first second third fourth d₁ d₂ d₃ k₁ k₂ k₃ k₄ : Int}
    (h₁ : d₁ = first * 16777619 + 4294967296 * k₁)
    (h₂ : d₂ = (d₁ + second) * 16777619 + 4294967296 * k₂)
    (h₃ : d₃ = (d₂ + third) * 16777619 + 4294967296 * k₃)
    (h₄ : 0 = (d₃ + fourth) * 16777619 + 4294967296 * k₄) :
    (first * 16777619 ^ 3 + second * 16777619 ^ 2 + third * 16777619 + fourth)
      % 4294967296 = 0 := by
  -- The factor is odd, so it can be cancelled in the last step: its inverse is 899433627.
  obtain ⟨k, hk⟩ : ∃ k, d₃ + fourth = 4294967296 * k :=
    ⟨-899433627 * k₄ - 3513497 * (d₃ + fourth), by linear_combination -899433627 * h₄⟩
  refine Int.emod_eq_zero_of_dvd ⟨k - k₁ * 16777619 ^ 2 - k₂ * 16777619 - k₃, ?_⟩
  linear_combination hk - h₃ - 16777619 * h₂ - 16777619 ^ 2 * h₁

/-- How far two states are apart after one digit each. -/
theorem mixUnit_sub (x y : UInt32) {d e : Nat} (hd : d < 10) (he : e < 10) :
    ∃ k : Int, ((mixUnit x (digitUnit d)).toNat - (mixUnit y (digitUnit e)).toNat : Int) =
      (x.toNat - y.toNat + (digitOffset x.toNat d - digitOffset y.toNat e)) * 16777619
        + 4294967296 * k := by
  have hx := toNat_mixUnit x hd
  have hy := toNat_mixUnit y he
  refine ⟨(y.toNat + digitOffset y.toNat e) * 16777619 / 4294967296
    - (x.toNat + digitOffset x.toNat d) * 16777619 / 4294967296, ?_⟩
  omega

/-- Two runs of four digits from one state end in different states. -/
theorem foldl_mixUnit_digits_inj {state : UInt32} {a b c d a' b' c' d' : Nat}
    (ha : a < 10) (hb : b < 10) (hc : c < 10) (hd : d < 10)
    (ha' : a' < 10) (hb' : b' < 10) (hc' : c' < 10) (hd' : d' < 10)
    (h : ([a, b, c, d].map digitUnit).foldl mixUnit state =
      ([a', b', c', d'].map digitUnit).foldl mixUnit state) :
    a = a' ∧ b = b' ∧ c = c' ∧ d = d' := by
  simp only [List.map_cons, List.map_nil, List.foldl_cons, List.foldl_nil] at h
  generalize hx₁ : mixUnit state (digitUnit a) = x₁ at h
  generalize hy₁ : mixUnit state (digitUnit a') = y₁ at h
  generalize hx₂ : mixUnit x₁ (digitUnit b) = x₂ at h
  generalize hy₂ : mixUnit y₁ (digitUnit b') = y₂ at h
  generalize hx₃ : mixUnit x₂ (digitUnit c) = x₃ at h
  generalize hy₃ : mixUnit y₂ (digitUnit c') = y₃ at h
  obtain ⟨k₁, h₁⟩ := mixUnit_sub state state ha ha'
  obtain ⟨k₂, h₂⟩ := mixUnit_sub x₁ y₁ hb hb'
  obtain ⟨k₃, h₃⟩ := mixUnit_sub x₂ y₂ hc hc'
  obtain ⟨k₄, h₄⟩ := mixUnit_sub x₃ y₃ hd hd'
  rw [hx₁, hy₁, Int.sub_self, Int.zero_add] at h₁
  rw [hx₂, hy₂] at h₂
  rw [hx₃, hy₃] at h₃
  rw [h, Int.sub_self] at h₄
  obtain ⟨za, zb, zc, zd⟩ := offsets_eq_zero (digitOffset_sub_bounds ha ha')
    (digitOffset_cross_bounds hb hb') (digitOffset_cross_bounds hc hc')
    (digitOffset_cross_bounds hd hd') (offsets_vanish h₁ h₂ h₃ h₄)
  -- The differences vanish one after the other, and with each the runs agree one digit longer.
  obtain rfl : a = a' := digitOffset_inj (Int.sub_eq_zero.1 za)
  obtain rfl : x₁ = y₁ := hx₁.symm.trans hy₁
  obtain rfl : b = b' := digitOffset_inj (Int.sub_eq_zero.1 zb)
  obtain rfl : x₂ = y₂ := hx₂.symm.trans hy₂
  obtain rfl : c = c' := digitOffset_inj (Int.sub_eq_zero.1 zc)
  obtain rfl : x₃ = y₃ := hx₃.symm.trans hy₃
  exact ⟨rfl, rfl, rfl, digitOffset_inj (Int.sub_eq_zero.1 zd)⟩

/-! ### Counters -/

theorem charUnits_digitChar {d : Nat} (hd : d < 10) :
    Text.charUnits (Nat.digitChar d) = [digitUnit d] := by
  have hdigits : ∀ d < 10, Text.charUnits (Nat.digitChar d) = [digitUnit d] := by decide
  exact hdigits d hd

theorem units_repr_of_lt {counter : Nat} (h : counter < 10) :
    Text.units (Nat.repr counter) = [digitUnit counter] := by
  rw [Text.units, Nat.toList_repr, Nat.toDigits_of_lt_base h, List.flatMap_singleton,
    charUnits_digitChar h]

/-- The last digit of a counter is its last unit. -/
theorem units_repr_of_le {counter : Nat} (h : 10 ≤ counter) :
    Text.units (Nat.repr counter) =
      Text.units (Nat.repr (counter / 10)) ++ [digitUnit (counter % 10)] := by
  rw [Text.units, Text.units, Nat.toList_repr, Nat.toList_repr,
    Nat.toDigits_of_base_le (by decide) h, List.flatMap_append, List.flatMap_singleton,
    charUnits_digitChar (Nat.mod_lt counter (by decide))]

/-- The units of a counter of four digits are those of its digits. -/
theorem units_repr {counter : Nat} (hlow : 1000 ≤ counter) (hhigh : counter < 10000) :
    Text.units (Nat.repr counter) =
      [counter / 1000, counter / 100 % 10, counter / 10 % 10, counter % 10].map digitUnit := by
  rw [units_repr_of_le (by omega), units_repr_of_le (by omega), units_repr_of_le (by omega),
    units_repr_of_lt (by omega)]
  simp only [Nat.div_div_eq_div_mul]
  rfl

theorem fingerprint_append (s t : String) :
    fingerprint (s ++ t) = (Text.units t).foldl mixUnit (fingerprint s) := by
  rw [fingerprint, fingerprint, Text.units, Text.units, Text.units, String.toList_append,
    List.flatMap_append, List.foldl_append]

theorem fingerprint_counted (tag : String) (counter : Nat) : fingerprint s!"{tag}:{counter}" =
    (Text.units (Nat.repr counter)).foldl mixUnit (fingerprint (tag ++ ":")) :=
  fingerprint_append (tag ++ ":") (Nat.repr counter)

/-- The ids of a tag with different counters of four digits are different. -/
theorem countedId_inj {tag : String} {m n : Nat} (hm : 1000 ≤ m ∧ m < 10000)
    (hn : 1000 ≤ n ∧ n < 10000) (h : countedId tag m = countedId tag n) : m = n := by
  have h := hex32_inj h
  rw [fingerprint_counted, fingerprint_counted, units_repr hm.1 hm.2, units_repr hn.1 hn.2] at h
  have hdigits := foldl_mixUnit_digits_inj (by omega) (by omega) (by omega) (by omega)
    (by omega) (by omega) (by omega) (by omega) h
  omega

/-- So are those with different counters of three digits: mixing in one more digit could not tell
them apart again. -/
theorem countedId_inj_of_three {tag : String} {m n : Nat} (hm : 100 ≤ m ∧ m < 1000)
    (hn : 100 ≤ n ∧ n < 1000) (h : countedId tag m = countedId tag n) : m = n := by
  have hlonger : ∀ counter : Nat, 1 ≤ counter → fingerprint s!"{tag}:{10 * counter}" =
      mixUnit (fingerprint s!"{tag}:{counter}") (digitUnit 0) := by
    intro counter hcounter
    rw [fingerprint_counted, fingerprint_counted, units_repr_of_le (by omega), List.foldl_append,
      (by omega : 10 * counter / 10 = counter), (by omega : 10 * counter % 10 = 0)]
    rfl
  have hmixed : countedId tag (10 * m) = countedId tag (10 * n) := by
    rw [countedId, countedId, hlonger m (by omega), hlonger n (by omega), hex32_inj h]
  have hten := countedId_inj (by omega) (by omega) hmixed
  omega

/-! ### The search -/

theorem unusedId_eq_firstFree (tag : String) (used : List String) :
    ∀ tries counter, unusedId tag used tries counter =
      firstFree (countedId tag) used tries counter
  | 0, _ => rfl
  | tries + 1, counter => by
      rw [unusedId, firstFree, unusedId_eq_firstFree tag used tries]

theorem syntheticId_eq (tag : String) (used : List String) : syntheticId tag used =
    if Text.hex32 (fingerprint tag) ∈ used then unusedId tag used searchSpan used.length
    else Text.hex32 (fingerprint tag) := rfl

/-- With fewer than five thousand used ids there is always another one. -/
theorem syntheticId_not_mem (tag : String) {used : List String} (hused : used.length < 5000) :
    syntheticId tag used ∉ used := by
  rw [syntheticId_eq]
  split
  · -- Five thousand different ids do not fit among the used ones.
    have hinj : ∀ i < 5000, ∀ j < 5000,
        countedId tag (5000 + i) = countedId tag (5000 + j) → i = j := by
      intro i hi j hj h
      have hsum := countedId_inj (by omega) (by omega) h
      omega
    obtain ⟨i, hi, hfree⟩ := exists_not_mem_of_inj hinj hused
    rw [unusedId_eq_firstFree]
    exact firstFree_not_mem ⟨5000 + i, by omega, by rw [searchSpan]; omega, hfree⟩
  · assumption

end ProxyChain.RoundRobin
