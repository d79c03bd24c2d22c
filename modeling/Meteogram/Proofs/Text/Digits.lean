import Mathlib.Data.String.Basic
import Mathlib.Tactic
import Meteogram.Text.Scan

/-!
# Numbers that are written and read

The digits of a number denote it, with leading zeros or without. A reader that meets a run of digits
takes all of it, up to its limit, and goes on with what follows.
-/
namespace Meteogram.Text

theorem isDigit_of_mem_digits {n : ℕ} {c : Char} (h : c ∈ digits n) : isDigit c = true :=
  Nat.isDigit_of_mem_toDigits (by decide) (by decide) h

theorem digits_ne_nil (n : ℕ) : digits n ≠ [] := Nat.toDigits_ne_nil

theorem isDigit_of_mem_padded {width n : ℕ} {c : Char} (h : c ∈ padded width n) :
    isDigit c = true := by
  rcases List.mem_append.mp h with h | h
  · rw [List.eq_of_mem_replicate h]
    rfl
  · exact isDigit_of_mem_digits h

theorem padded_ne_nil (width n : ℕ) : padded width n ≠ [] :=
  List.append_ne_nil_of_right_ne_nil _ (digits_ne_nil n)

theorem isDigit_of_mem_head?_padded {width n : ℕ} {rest : List Char} {c : Char}
    (h : c ∈ (padded width n ++ rest).head?) : isDigit c = true := by
  rw [List.head?_append_of_ne_nil _ (padded_ne_nil width n)] at h
  exact isDigit_of_mem_padded (List.mem_of_mem_head? h)

theorem valueOf_eq (ds : List Char) : valueOf ds = Nat.ofDigitChars 10 ds 0 :=
  Nat.ofDigitChars_eq_foldl.symm

@[simp] theorem valueOf_digits (n : ℕ) : valueOf (digits n) = n := by
  rw [valueOf_eq]
  exact Nat.ofDigitChars_ten_toDigits

@[simp] theorem valueOf_padded (width n : ℕ) : valueOf (padded width n) = n := by
  rw [valueOf_eq, padded, Nat.ofDigitChars_append, Nat.ofDigitChars_replicate_zero, Nat.mul_zero]
  exact Nat.ofDigitChars_ten_toDigits

theorem length_padded {width n : ℕ} (hwidth : 0 < width) (h : n < 10 ^ width) :
    (padded width n).length = width := by
  have hle : (digits n).length ≤ width := Nat.length_toDigits_le_iff (by decide) hwidth |>.mpr h
  rw [padded, List.length_append, List.length_replicate]
  omega

theorem le_length_padded (width n : ℕ) : width ≤ (padded width n).length := by
  rw [padded, List.length_append, List.length_replicate]
  omega

theorem toNat_mem_of_isDigit {c : Char} (h : isDigit c = true) : 48 ≤ c.toNat ∧ c.toNat ≤ 57 := by
  simpa [isDigit, Char.le_def, UInt32.le_iff_toNat_le] using h

theorem digitValue_le {c : Char} (h : isDigit c = true) : digitValue c ≤ 9 := by
  have hrange := toNat_mem_of_isDigit h
  have hzero : '0'.toNat = 48 := rfl
  rw [digitValue, hzero]
  omega

theorem valueOf_cons (c : Char) (ds : List Char) :
    valueOf (c :: ds) = digitValue c * 10 ^ ds.length + valueOf ds := by
  rw [valueOf_eq, valueOf_eq, Nat.ofDigitChars_cons, Nat.ofDigitChars_eq_ofDigitChars_zero,
    Nat.mul_zero, Nat.zero_add, Nat.mul_comm]
  rfl

theorem valueOf_lt {ds : List Char} (hds : ∀ c ∈ ds, isDigit c = true) :
    valueOf ds < 10 ^ ds.length := by
  induction ds with
  | nil => decide
  | cons c ds ih =>
    rw [List.forall_mem_cons] at hds
    have hc := Nat.mul_le_mul_right (10 ^ ds.length) (digitValue_le hds.1)
    have hrest := ih hds.2
    rw [valueOf_cons, List.length_cons, pow_succ]
    omega

/-- The digits of a number begin with a zero only if they are a single one. -/
theorem digits_eq_cons (n : ℕ) :
    ∃ c ds, digits n = c :: ds ∧ isDigit c = true ∧ (c = '0' → ds = []) := by
  cases h : digits n with
  | nil => exact absurd h (digits_ne_nil n)
  | cons c ds =>
    have hdigit : ∀ d ∈ c :: ds, isDigit d = true := fun d hd => isDigit_of_mem_digits (h ▸ hd)
    refine ⟨c, ds, rfl, hdigit c List.mem_cons_self, ?_⟩
    rintro rfl
    by_contra hne
    have hn : n < 10 ^ ds.length := by
      have hvalue := valueOf_digits n
      rw [h, valueOf_cons, show digitValue '0' = 0 from rfl, Nat.zero_mul, Nat.zero_add] at hvalue
      rw [← hvalue]
      exact valueOf_lt (List.forall_mem_cons.mp hdigit).2
    have hlength := (Nat.length_toDigits_le_iff (by decide) (List.length_pos_iff.mpr hne)).mpr hn
    change (digits n).length ≤ ds.length at hlength
    rw [h, List.length_cons] at hlength
    omega

/-- A digit is one byte. -/
theorem utf8ByteSize_ofList_of_isDigit {ds : List Char} (h : ∀ c ∈ ds, isDigit c = true) :
    (String.ofList ds).utf8ByteSize = ds.length := by
  rw [String.utf8ByteSize_ofList]
  induction ds with
  | nil => rfl
  | cons c ds ih =>
    rw [List.forall_mem_cons] at h
    have hsize : c.utf8Size = 1 := by
      have hrange := toNat_mem_of_isDigit h.1
      rw [Char.utf8Size_eq_one_iff, UInt32.le_iff_toNat_le]
      exact hrange.2.trans (by decide)
    rw [String.utf8Len_cons, ih h.2, hsize, List.length_cons]

theorem takeWhile_isDigit_append {ds rest : List Char} (hds : ∀ c ∈ ds, isDigit c = true)
    (hrest : ∀ c ∈ rest.head?, isDigit c = false) : (ds ++ rest).takeWhile isDigit = ds := by
  rw [List.takeWhile_append_of_pos hds]
  cases rest with
  | nil => rw [List.takeWhile_nil, List.append_nil]
  | cons c rest => rw [List.takeWhile_cons_of_neg (by simpa using hrest c rfl), List.append_nil]

theorem dropWhile_isDigit_append {ds rest : List Char} (hds : ∀ c ∈ ds, isDigit c = true)
    (hrest : ∀ c ∈ rest.head?, isDigit c = false) : (ds ++ rest).dropWhile isDigit = rest := by
  rw [List.dropWhile_append_of_pos hds]
  cases rest with
  | nil => rfl
  | cons c rest => rw [List.dropWhile_cons_of_neg (by simpa using hrest c rfl)]

/-- The digits that a reader takes are the number it reads. -/
theorem number?_of_leadingDigits {ds rest : List Char} {least : ℕ} {most : Option ℕ}
    (h : leadingDigits most (ds ++ rest) = ds) (hleast : least ≤ ds.length) :
    number? least most (ds ++ rest) = some (valueOf ds, rest) := by
  rw [number?, h, if_neg (by omega), List.drop_left]

theorem leadingDigits_append {ds rest : List Char} {most : ℕ} (hds : ∀ c ∈ ds, isDigit c = true)
    (hlength : ds.length ≤ most) (hrest : ∀ c ∈ rest.head?, isDigit c = false) :
    leadingDigits (some most) (ds ++ rest) = ds := by
  rw [leadingDigits, takeWhile_isDigit_append hds hrest, List.take_of_length_le hlength]

/-- A number of as many digits as may be is read, whatever follows it. -/
theorem number?_of_length {ds : List Char} {least most : ℕ} (hds : ∀ c ∈ ds, isDigit c = true)
    (hlength : ds.length = most) (hleast : least ≤ most) (rest : List Char) :
    number? least (some most) (ds ++ rest) = some (valueOf ds, rest) := by
  refine number?_of_leadingDigits ?_ (by omega)
  rw [leadingDigits, List.takeWhile_append_of_pos hds, List.take_append_of_le_length hlength.ge,
    List.take_of_length_le hlength.le]

/-- A number of a fixed width is read, whatever follows it. -/
theorem number?_padded {width n : ℕ} (hwidth : 0 < width) (h : n < 10 ^ width) (rest : List Char) :
    number? width (some width) (padded width n ++ rest) = some (n, rest) := by
  rw [number?_of_length (fun _ => isDigit_of_mem_padded) (length_padded hwidth h) le_rfl,
    valueOf_padded]

/-- A number without a limit is read up to what is no digit. -/
theorem number?_of_end {ds rest : List Char} {least : ℕ} (hds : ∀ c ∈ ds, isDigit c = true)
    (hleast : least ≤ ds.length) (hrest : ∀ c ∈ rest.head?, isDigit c = false) :
    number? least none (ds ++ rest) = some (valueOf ds, rest) :=
  number?_of_leadingDigits (takeWhile_isDigit_append hds hrest) hleast

/-- Where there is no digit there is no number. -/
theorem number?_of_not_isDigit {least : ℕ} (hleast : 0 < least) (most : Option ℕ) {c : Char}
    (h : isDigit c = false) (rest : List Char) : number? least most (c :: rest) = none := by
  have hnone : leadingDigits most (c :: rest) = [] := by
    unfold leadingDigits
    cases most <;> simp [h]
  rw [number?, hnone]
  exact if_pos hleast

@[simp] theorem char?_cons (c : Char) (rest : List Char) : char? c (c :: rest) = some rest :=
  if_pos rfl

/-! What follows a thing that is read ends the text. -/

theorem number?_suffix {least n : ℕ} {most : Option ℕ} {cs rest : List Char}
    (h : number? least most cs = some (n, rest)) : rest <:+ cs := by
  dsimp only [number?] at h
  split_ifs at h
  cases h
  exact List.drop_suffix _ _

theorem char?_suffix {expected : Char} {cs rest : List Char} (h : char? expected cs = some rest) :
    rest <:+ cs := by
  unfold char? at h
  split at h
  · cases h
  · split_ifs at h
    cases h
    exact List.suffix_cons _ _

/-! White space around a text is all that trimming takes. -/

theorem isBlank_of_isDigit {c : Char} (h : isDigit c = true) : isBlank c = false := by
  have hrange := toNat_mem_of_isDigit h
  simp only [isBlank, Bool.or_eq_false_iff, Bool.and_eq_false_iff, decide_eq_false_iff_not,
    beq_eq_false_iff_ne]
  omega

theorem trimStart_of_not_isBlank {cs : List Char} (h : ∀ c ∈ cs.head?, isBlank c = false) :
    trimStart cs = cs := by
  cases cs with
  | nil => rfl
  | cons c cs => exact List.dropWhile_cons_of_neg (by simpa using h c rfl)

/-- White space around a text is trimmed where the text neither begins nor ends with any. -/
theorem trim_append {left cs right : List Char} (hleft : ∀ c ∈ left, isBlank c = true)
    (hright : ∀ c ∈ right, isBlank c = true) (hhead : ∀ c ∈ cs.head?, isBlank c = false)
    (hlast : ∀ c ∈ cs.getLast?, isBlank c = false) : trim (left ++ cs ++ right) = cs := by
  have hall : ∀ {l : List Char}, (∀ c ∈ l, isBlank c = true) → ∀ m, trimStart (l ++ m) = trimStart m :=
    fun hl _ => List.dropWhile_append_of_pos hl
  have hend : trimStart (right.reverse ++ cs.reverse) = cs.reverse := by
    rw [hall (by simpa using hright), trimStart_of_not_isBlank (by simpa using hlast)]
  cases cs with
  | nil =>
    have hblank := hall hright []
    rw [List.append_nil] at hblank
    rw [trim, List.append_nil, hall hleft, hblank]
    rfl
  | cons c cs =>
    have hstart : trimStart (c :: cs ++ right) = c :: cs ++ right :=
      trimStart_of_not_isBlank fun c' hc' => hhead c' (by simpa using hc')
    rw [trim, List.append_assoc, hall hleft, hstart, List.reverse_append, hend,
      List.reverse_reverse]

theorem trim_of_not_isBlank {cs : List Char} (h : ∀ c ∈ cs, isBlank c = false) : trim cs = cs := by
  have htrim : trim ([] ++ cs ++ []) = cs := trim_append (by simp) (by simp)
    (fun c hc => h c (List.mem_of_mem_head? hc)) (fun c hc => h c (List.mem_of_getLast? hc))
  rwa [List.nil_append, List.append_nil] at htrim

theorem trimStart_padded (width n : ℕ) (rest : List Char) :
    trimStart (padded width n ++ rest) = padded width n ++ rest :=
  trimStart_of_not_isBlank fun _ hc => isBlank_of_isDigit (isDigit_of_mem_head?_padded hc)

/-- A number of two digits is read, whatever follows it. -/
theorem pair?_padded {n : ℕ} (h : n < 100) (rest : List Char) :
    pair? (padded 2 n ++ rest) = some (n, rest) := by
  have hlength : (padded 2 n).length = 2 := length_padded (by decide) h
  rw [pair?, trimStart_padded, number?_of_length (fun _ => isDigit_of_mem_padded) hlength (by decide),
    valueOf_padded]

end Meteogram.Text
