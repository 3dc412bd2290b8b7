import ModPack.NamedString
import ModPack.Text.Hex
import Mathlib.Data.List.Induction
import Mathlib.Tactic.IntervalCases

/-!
# Hexadecimal text read back

The digits of a number are its one numeral: the upper-case hexadecimal digits that read back as the
number and have no zero in front of others. Padding a number to a width writes such digits only, as
many as the width when the number fits, and reading them gives the number. The ids of strings are
two such texts, so an id tells the section and the index of its string. Main statements:
`numeral_iff`, `value?_padded` and `NamedString.idText_inj`.
-/
namespace ModPack

namespace Hex

def isUpperDigit (c : Char) : Bool :=
  ('0' ≤ c && c ≤ '9') || ('A' ≤ c && c ≤ 'F')

/-- The last digit comes off the end. -/
theorem digits_eq (n : Nat) :
    digits n = (if n < 16 then [] else digits (n / 16)) ++ [(n % 16).digitChar.toUpper] := by
  rw [digits, Nat.toDigits_eq_if (by omega)]
  split
  · next h => simp [Nat.mod_eq_of_lt h]
  · simp [digits]

theorem digitValue?_digitChar {d : Nat} (h : d < 16) :
    digitValue? d.digitChar.toUpper = some d := by
  interval_cases d <;> decide

theorem toUpper_eq_digitChar {c : Char} {d : Nat} (h : digitValue? c = some d) :
    d < 16 ∧ c.toUpper = d.digitChar.toUpper := by
  have hread : ∀ code < 128, ∀ found ∈ digitValue? (Char.ofNat code),
      found < 16 ∧ (Char.ofNat code).toUpper = found.digitChar.toUpper := by decide +kernel
  have hcode : c.toNat < 128 := by
    unfold digitValue? at h
    split at h
    · next hc => exact Nat.lt_of_le_of_lt (show c.toNat ≤ 57 from hc.2) (by omega)
    split at h
    · next hc => exact Nat.lt_of_le_of_lt (show c.toNat ≤ 70 from hc.2) (by omega)
    split at h
    · next hc => exact Nat.lt_of_le_of_lt (show c.toNat ≤ 102 from hc.2) (by omega)
    · cases h
  have hvalue := hread c.toNat hcode d
  rw [Char.ofNat_toNat] at hvalue
  exact hvalue h

theorem isUpperDigit_digitChar {d : Nat} (h : d < 16) :
    isUpperDigit d.digitChar.toUpper = true := by
  interval_cases d <;> decide

theorem isUpperDigit_of_mem_digits {n : Nat} {c : Char} (h : c ∈ digits n) :
    isUpperDigit c = true := by
  induction n using Nat.strongRecOn with
  | ind n ih =>
    rw [digits_eq, List.mem_append] at h
    rcases h with h | h
    · split at h
      · cases h
      · exact ih (n / 16) (by omega) h
    · rw [List.mem_singleton.1 h]
      exact isUpperDigit_digitChar (Nat.mod_lt n (by omega))

theorem value?_append_singleton {front : List Char} {c : Char} {n : Nat} :
    value? (front ++ [c]) = some n ↔
      ∃ total d, value? front = some total ∧ digitValue? c = some d ∧ 16 * total + d = n := by
  unfold value?
  rw [List.foldlM_append]
  simp [Option.bind_eq_some_iff]

theorem value?_digits (n : Nat) : value? (digits n) = some n := by
  induction n using Nat.strongRecOn with
  | ind n ih =>
    rw [digits_eq]
    have hlast := digitValue?_digitChar (Nat.mod_lt n (by omega : 0 < 16))
    split
    · next h => exact value?_append_singleton.2 ⟨0, _, rfl, hlast, by omega⟩
    · exact value?_append_singleton.2 ⟨_, _, ih (n / 16) (by omega), hlast, by omega⟩

theorem value?_text (n : Nat) : value? (text n).toList = some n := by
  simp [text, value?_digits]

/-- The run of upper-case digits that a number is written as. -/
structure Numeral (n : Nat) (cs : List Char) : Prop where
  ne_nil : cs ≠ []
  digits : ∀ c ∈ cs, isUpperDigit c = true
  value : value? cs = some n
  lead : cs.head? = some '0' → cs = ['0']

theorem eq_digitChar_of_isUpperDigit {c : Char} {d : Nat} (hupper : isUpperDigit c = true)
    (h : digitValue? c = some d) : d < 16 ∧ c = d.digitChar.toUpper := by
  obtain ⟨hd, hc⟩ := toUpper_eq_digitChar h
  have hsame : c.toUpper = c := by
    have hlower : ¬ ('a'.val ≤ c.val ∧ c.val ≤ 'z'.val) := by
      simp only [isUpperDigit, Bool.or_eq_true, Bool.and_eq_true, decide_eq_true_eq, Char.le_def,
        UInt32.le_iff_toNat_le] at hupper ⊢
      have ha : 'a'.val.toNat = 97 := rfl
      have hF : 'F'.val.toNat = 70 := rfl
      have h9 : '9'.val.toNat = 57 := rfl
      omega
    exact dif_neg hlower
  exact ⟨hd, hsame.symm.trans hc⟩

theorem head?_append_of_ne_nil {α : Type} {front back : List α} (h : front ≠ []) :
    (front ++ back).head? = front.head? := by
  obtain ⟨first, rest, rfl⟩ := List.exists_cons_of_ne_nil h
  rfl

theorem digits_ne_nil (n : Nat) : digits n ≠ [] := by
  rw [digits_eq]
  exact List.append_ne_nil_of_right_ne_nil _ (List.cons_ne_nil _ _)

/-- Only zero begins with a zero. -/
theorem eq_zero_of_head?_digits {n : Nat} (h : (digits n).head? = some '0') : n = 0 := by
  induction n using Nat.strongRecOn with
  | ind n ih =>
    rw [digits_eq] at h
    split at h
    · next hlt =>
      have hzero : (n % 16).digitChar.toUpper = '0' := Option.some.inj h
      have hread := digitValue?_digitChar (Nat.mod_lt n (by omega : 0 < 16))
      rw [hzero] at hread
      have hmod : 0 = n % 16 := Option.some.inj hread
      omega
    · next hle =>
      rw [head?_append_of_ne_nil (digits_ne_nil _)] at h
      have hdiv := ih (n / 16) (by omega) h
      omega

theorem numeral_digits (n : Nat) : Numeral n (digits n) where
  ne_nil := digits_ne_nil n
  digits _ hc := isUpperDigit_of_mem_digits hc
  value := value?_digits n
  lead h := by
    rw [eq_zero_of_head?_digits h]
    rfl

theorem Numeral.eq_digits {n : Nat} {cs : List Char} (h : Numeral n cs) : cs = Hex.digits n := by
  induction cs using List.reverseRecOn generalizing n with
  | nil => exact absurd rfl h.ne_nil
  | append_singleton front c ih =>
    obtain ⟨total, d, hfront, hvalue, rfl⟩ := value?_append_singleton.1 h.value
    obtain ⟨hd, hc⟩ := eq_digitChar_of_isUpperDigit (h.digits c (by simp)) hvalue
    have hmod : (16 * total + d) % 16 = d := by omega
    rw [digits_eq, hmod, ← hc]
    by_cases hnil : front = []
    · subst hnil
      have htotal : 0 = total := Option.some.inj hfront
      rw [if_pos (by omega)]
    · -- What is in front of the last digit is a numeral too, and not that of zero.
      have hlead : front.head? ≠ some '0' := by
        intro hzero
        have hall := h.lead ((head?_append_of_ne_nil hnil).trans hzero)
        have hlength := congrArg List.length hall
        simp [hnil] at hlength
      have hdigits : front = Hex.digits total := ih {
        ne_nil := hnil
        digits := fun c hc => h.digits c (List.mem_append_left _ hc)
        value := hfront
        lead := fun hzero => absurd hzero hlead }
      have hpos : total ≠ 0 := by
        rintro rfl
        exact hlead (hdigits ▸ rfl)
      have hdiv : (16 * total + d) / 16 = total := by omega
      rw [if_neg (by omega), hdiv, ← hdigits]

/-- The text of a number is its numeral. -/
theorem numeral_iff {n : Nat} {name : String} : Numeral n name.toList ↔ name = text n := by
  constructor
  · intro h
    rw [text, ← h.eq_digits, String.ofList_toList]
  · rintro rfl
    rw [text, String.toList_ofList]
    exact numeral_digits n

theorem length_digits_le {n width : Nat} (hwidth : 0 < width) (h : n < 16 ^ width) :
    (digits n).length ≤ width := by
  rw [digits, List.length_map]
  exact (Nat.length_toDigits_le_iff (by omega) hwidth).2 h

theorem toList_padded (width n : Nat) :
    (padded width n).toList = List.replicate (width - (digits n).length) '0' ++ digits n := by
  have hsign : ¬ (n : Int) < 0 := by omega
  simp [padded, hsign]

/-- A number that fits is written in exactly the width. -/
theorem length_padded {width n : Nat} (hwidth : 0 < width) (h : n < 16 ^ width) :
    (padded width n).toList.length = width := by
  have hdigits := length_digits_le hwidth h
  rw [toList_padded, List.length_append, List.length_replicate]
  omega

theorem length_padded_pos (width n : Nat) : 0 < (padded width n).toList.length := by
  have hdigits : 0 < (digits n).length := List.length_pos_iff.2 (digits_ne_nil n)
  rw [toList_padded, List.length_append]
  omega

theorem padded_ne_empty (width n : Nat) : padded width n ≠ "" := by
  intro hempty
  have hpos := length_padded_pos width n
  rw [hempty] at hpos
  exact Nat.lt_irrefl _ hpos

theorem isUpperDigit_of_mem_padded {width n : Nat} {c : Char} (h : c ∈ (padded width n).toList) :
    isUpperDigit c = true := by
  rw [toList_padded, List.mem_append] at h
  rcases h with h | h
  · rw [(List.mem_replicate.1 h).2]
    decide
  · exact isUpperDigit_of_mem_digits h

theorem value?_zeros_append (count : Nat) (cs : List Char) :
    value? (List.replicate count '0' ++ cs) = value? cs := by
  induction count with
  | zero => rfl
  | succ count ih =>
    have hzero : digitValue? '0' = some 0 := by decide
    rw [← ih, List.replicate_succ, List.cons_append]
    simp [value?, hzero]

theorem value?_padded (width n : Nat) : value? (padded width n).toList = some n := by
  rw [toList_padded, value?_zeros_append, value?_digits]

theorem padded_inj {width first second : Nat} (h : padded width first = padded width second) :
    first = second := by
  have hvalue := value?_padded width first
  rw [h, value?_padded] at hvalue
  exact (Option.some.inj hvalue).symm

end Hex

namespace NamedString

variable {bank index : Nat}

theorem toList_idText (bank index : Nat) :
    (idText bank index).toList = (Hex.padded 4 bank).toList ++ (Hex.padded 4 index).toList := by
  simp [idText]

theorem take_idText (h : bank < 16 ^ 4) :
    (idText bank index).toList.take 4 = (Hex.padded 4 bank).toList := by
  rw [toList_idText]
  exact List.take_left' (Hex.length_padded (by omega) h)

theorem drop_idText (h : bank < 16 ^ 4) :
    (idText bank index).toList.drop 4 = (Hex.padded 4 index).toList := by
  rw [toList_idText]
  exact List.drop_left' (Hex.length_padded (by omega) h)

theorem isUpperDigit_of_mem_idText {c : Char} (h : c ∈ (idText bank index).toList) :
    Hex.isUpperDigit c = true := by
  rw [toList_idText, List.mem_append] at h
  rcases h with h | h <;> exact Hex.isUpperDigit_of_mem_padded h

/-- An id with a section and an index that fit has eight digits. -/
theorem length_idText (hbank : bank < 16 ^ 4) (hindex : index < 16 ^ 4) :
    (idText bank index).toList.length = 8 := by
  rw [toList_idText, List.length_append, Hex.length_padded (by omega) hbank,
    Hex.length_padded (by omega) hindex]

/-- The id tells the section and the index. -/
theorem idText_inj {bank' index' : Nat} (hbank : bank < 16 ^ 4) (hbank' : bank' < 16 ^ 4)
    (h : idText bank index = idText bank' index') : bank = bank' ∧ index = index' := by
  have hfront : (idText bank index).toList.take 4 = _ := take_idText hbank
  have hback : (idText bank index).toList.drop 4 = _ := drop_idText hbank
  rw [h, take_idText hbank'] at hfront
  rw [h, drop_idText hbank'] at hback
  exact ⟨Hex.padded_inj (String.toList_inj.1 hfront.symm),
    Hex.padded_inj (String.toList_inj.1 hback.symm)⟩

end NamedString

end ModPack
