import ProxyChain.Text.Digits

/-!
# ProxyChain.Proofs.Text.Digits

**Numbers are read back from their decimal digits** (`readNatural?_repr`), and what is read as a
number holds digits only. A word is written as eight hexadecimal digits in lower case
(`mem_hex32`).
-/

namespace ProxyChain.Text

theorem digitValue?_eq {c : Char} (h : c.isDigit = true) :
    digitValue? c = some (c.toNat - 48) := by
  have hbounds : '0' ≤ c ∧ c ≤ '9' := by simpa [Char.isDigit, Char.le_def] using h
  rw [digitValue?, if_pos hbounds]

theorem toNat_sub_lt_of_isDigit {c : Char} (h : c.isDigit = true) : c.toNat - 48 < 10 := by
  have hbound : c.toNat ≤ 57 := (Char.isDigit_iff_toNat.1 h).2
  omega

theorem foldlM_digits : ∀ {cs : List Char} (init : Nat), (∀ c ∈ cs, c.isDigit = true) →
    cs.foldlM (fun acc c => do
      let d ← digitValue? c
      if d < 10 then some (acc * 10 + d) else none) init = some (Nat.ofDigitChars 10 cs init)
  | [], _, _ => rfl
  | c :: rest, init, h => by
      rw [List.forall_mem_cons] at h
      have hvalue : init * 10 + (c.toNat - 48) = 10 * init + (c.toNat - '0'.toNat) := by
        rw [Nat.mul_comm]
        rfl
      have hrest := foldlM_digits (init * 10 + (c.toNat - 48)) h.2
      rw [List.foldlM_cons, digitValue?_eq h.1]
      simp only [Option.bind_eq_bind, Option.bind_some, if_pos (toNat_sub_lt_of_isDigit h.1)]
      rw [Option.bind_eq_bind] at hrest
      rw [hrest, hvalue]
      rfl

/-- A number is read back from its digits. -/
theorem readNatural?_repr (n : Nat) : readNatural? (Nat.repr n) = some n := by
  have hdigits : ∀ c ∈ Nat.toDigits 10 n, c.isDigit = true := fun c hc =>
    Nat.isDigit_of_mem_toDigits (by decide) (by decide) hc
  have hread : readDigits? 10 (Nat.toDigits 10 n) = some n := by
    rw [readDigits?, if_neg (by simp [Nat.toDigits_ne_nil]), foldlM_digits 0 hdigits,
      Nat.ofDigitChars_ten_toDigits]
  rw [readNatural?, Nat.toList_repr]
  split
  · -- A plus sign is no digit.
    rename_i rest hplus
    rw [hplus] at hdigits
    exact absurd (hdigits '+' List.mem_cons_self) (by decide)
  · exact hread

/-- A run of digits holds nothing but digits. -/
theorem digitValue?_of_foldlM {base : Nat} : ∀ {cs : List Char} {init n : Nat},
    cs.foldlM (fun acc c => do
      let d ← digitValue? c
      if d < base then some (acc * base + d) else none) init = some n →
    ∀ c ∈ cs, digitValue? c ≠ none
  | [], _, _, _ => List.forall_mem_nil _
  | c :: rest, init, n, h => by
      rw [List.foldlM_cons] at h
      cases hdigit : digitValue? c with
      | none => rw [hdigit] at h; cases h
      | some d =>
          rw [hdigit] at h
          obtain ⟨next, -, hrest⟩ := Option.bind_eq_some_iff.1 h
          exact List.forall_mem_cons.2 ⟨by simp [hdigit], digitValue?_of_foldlM hrest⟩

theorem digitValue?_of_readDigits? {base n : Nat} {cs : List Char}
    (h : readDigits? base cs = some n) : ∀ c ∈ cs, digitValue? c ≠ none := by
  rw [readDigits?] at h
  split at h
  · cases h
  · exact digitValue?_of_foldlM h

/-- There is no dash in a text that is read as a number. -/
theorem dash_not_mem_of_readNatural? {s : String} {n : Nat} (h : readNatural? s = some n) :
    '-' ∉ s.toList := by
  have hdash : digitValue? '-' = none := by decide
  rw [readNatural?] at h
  split at h
  · rename_i rest hplus
    rw [hplus, List.mem_cons, not_or]
    exact ⟨by decide, fun hmem => digitValue?_of_readDigits? h _ hmem hdash⟩
  · exact fun hmem => digitValue?_of_readDigits? h _ hmem hdash

/-! ### Hexadecimal digits -/

theorem mem_hexDigits : ∀ {width n : Nat} {c : Char}, c ∈ hexDigits width n →
    c ∈ "0123456789abcdef".toList
  | width + 1, n, c, h => by
      have hdigits : ∀ d < 16, Nat.digitChar d ∈ "0123456789abcdef".toList := by decide
      rw [hexDigits] at h
      rcases List.mem_append.1 h with h | h
      · exact mem_hexDigits h
      · rw [List.mem_singleton.1 h]
        exact hdigits _ (Nat.mod_lt n (by decide))

theorem length_hex32 (word : UInt32) : (hex32 word).length = 8 := by
  rw [hex32, String.length_ofList, length_hexDigits]

theorem mem_hex32 {word : UInt32} {c : Char} (h : c ∈ (hex32 word).toList) :
    c ∈ "0123456789abcdef".toList := by
  rw [hex32, String.toList_ofList] at h
  exact mem_hexDigits h

end ProxyChain.Text
