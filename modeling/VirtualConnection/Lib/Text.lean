import Mathlib.Algebra.Order.Ring.Int
import Mathlib.Data.List.DropRight
import Mathlib.Data.Int.Basic

/-!
# Text

Decimal numbers and lines in ASCII text. A text is a list of characters; `toBytes` and `ofBytes` are
its ASCII encoding.

* `splitSign_decimal`, `withSign_natAbs`: reading a decimal number that was written.
* `idxOf_line`: where the first line of a text ends.
* `rdropWhile_append_of_forall`, `rdropWhile_append_of_exists`: what trimming leaves of a text.
-/

namespace Text

/-! ## Decimal numbers -/

/-- Decimal notation, with a minus sign below zero. -/
def decimal (z : Int) : List Char :=
  if z < 0 then '-' :: Nat.toDigits 10 z.natAbs else Nat.toDigits 10 z.natAbs

/-- A sign, if there is one: whether it is a minus, and the rest. -/
def splitSign : List Char → Bool × List Char
  | '-' :: rest => (true, rest)
  | '+' :: rest => (false, rest)
  | text => (false, text)

def withSign (negative : Bool) (n : ℕ) : Int := if negative then -n else n

variable {n k : ℕ} {z : Int}

theorem isDigit_of_mem (c : Char) (h : c ∈ Nat.toDigits 10 n) : c.isDigit = true :=
  Nat.isDigit_of_mem_toDigits (by decide) (by decide) h

theorem splitSign_of_digit {c : Char} {rest : List Char} (h : c.isDigit = true) :
    splitSign (c :: rest) = (false, c :: rest) := by
  unfold splitSign
  split
  · next heq => cases heq; cases h
  · next heq => cases heq; cases h
  · rfl

theorem splitSign_decimal (z : Int) :
    splitSign (decimal z) = (decide (z < 0), Nat.toDigits 10 z.natAbs) := by
  unfold decimal
  split
  · next hz => simp [splitSign, hz]
  · next hz =>
    cases hd : Nat.toDigits 10 z.natAbs with
    | nil => exact absurd hd Nat.toDigits_ne_nil
    | cons c rest =>
      rw [splitSign_of_digit (isDigit_of_mem c (hd ▸ List.mem_cons_self)), decide_eq_false hz]

theorem withSign_natAbs (z : Int) : withSign (decide (z < 0)) z.natAbs = z := by
  unfold withSign
  by_cases hz : z < 0
  · rw [decide_eq_true hz, if_pos rfl]
    omega
  · rw [decide_eq_false hz, if_neg Bool.false_ne_true]
    omega

theorem mem_decimal {c : Char} (h : c ∈ decimal z) : c = '-' ∨ c.isDigit = true := by
  unfold decimal at h
  split at h
  · rcases List.mem_cons.mp h with rfl | h
    · exact .inl rfl
    · exact .inr (isDigit_of_mem c h)
  · exact .inr (isDigit_of_mem c h)

theorem decimal_ne_nil : decimal z ≠ [] := by
  unfold decimal
  split
  · exact List.cons_ne_nil _ _
  · exact Nat.toDigits_ne_nil

theorem length_decimal_le (hk : 0 < k) (h : z.natAbs < 10 ^ k) : (decimal z).length ≤ k + 1 := by
  have hdigits := (Nat.length_toDigits_le_iff (b := 10) (by decide) hk).mpr h
  unfold decimal
  split
  · simpa using hdigits
  · omega

/-! ## Characters -/

/-- ASCII, and not NUL. -/
def IsText (text : List Char) : Prop := ∀ c ∈ text, 0 < c.toNat ∧ c.toNat < 128

/-- What `String.trim` of Java takes away. -/
def isBlank (c : Char) : Bool := c.toNat ≤ 32

@[simp] theorem isText_nil : IsText [] := nofun

theorem IsText.cons {c : Char} {text : List Char} (hc : 0 < c.toNat ∧ c.toNat < 128) (h : IsText text) :
    IsText (c :: text) := by
  intro c' hc'
  rcases List.mem_cons.mp hc' with rfl | hc'
  · exact hc
  · exact h c' hc'

theorem toNat_of_mem_decimal {c : Char} (h : c ∈ decimal z) : 32 < c.toNat ∧ c.toNat < 128 := by
  rcases mem_decimal h with rfl | hd
  · decide
  · simp only [Char.isDigit, Bool.and_eq_true, decide_eq_true_eq] at hd
    have h0 : 48 ≤ c.toNat := hd.1
    have h9 : c.toNat ≤ 57 := hd.2
    omega

theorem isText_decimal : IsText (decimal z) := by
  intro c hc
  have := toNat_of_mem_decimal hc
  omega

theorem isBlank_of_mem_decimal {c : Char} (h : c ∈ decimal z) : isBlank c = false := by
  have := toNat_of_mem_decimal h
  simp only [isBlank, decide_eq_false_iff_not]
  omega

theorem newline_not_mem_decimal : '\n' ∉ decimal z := by
  intro h
  have := toNat_of_mem_decimal h
  simp at this

theorem IsText.append {a b : List Char} (ha : IsText a) (hb : IsText b) : IsText (a ++ b) := by
  intro c hc
  rcases List.mem_append.mp hc with hc | hc
  · exact ha c hc
  · exact hb c hc

theorem IsText.newline {a b : List Char} (ha : IsText a) (hb : IsText b) :
    IsText (a ++ '\n' :: b) := by
  exact ha.append (hb.cons (by decide))

/-! ## Bytes -/

def toBytes (text : List Char) : List UInt8 := text.map fun c => UInt8.ofNat c.toNat

def ofBytes (bytes : List UInt8) : List Char := bytes.map fun b => Char.ofNat b.toNat

@[simp] theorem length_toBytes (text : List Char) : (toBytes text).length = text.length :=
  List.length_map _

@[simp] theorem ofBytes_append (a b : List UInt8) : ofBytes (a ++ b) = ofBytes a ++ ofBytes b :=
  List.map_append

theorem ofBytes_toBytes {text : List Char} (h : IsText text) : ofBytes (toBytes text) = text := by
  rw [ofBytes, toBytes, List.map_map]
  refine (List.map_congr_left fun c hc => ?_).trans (List.map_id text)
  have hlt := (h c hc).2
  have hbyte : (UInt8.ofNat c.toNat).toNat = c.toNat := by
    rw [UInt8.toNat_ofNat', Nat.mod_eq_of_lt (by omega)]
  simp [hbyte]

theorem zero_notMem_toBytes {text : List Char} (h : IsText text) : (0 : UInt8) ∉ toBytes text := by
  intro hmem
  obtain ⟨c, hc, hbyte⟩ := List.mem_map.mp hmem
  have hlt := h c hc
  have hzero := congrArg UInt8.toNat hbyte
  rw [UInt8.toNat_ofNat', Nat.mod_eq_of_lt (by omega)] at hzero
  simp at hzero
  omega

/-! ## Lines -/

/-- The first line ends at the first newline. -/
theorem idxOf_line {line : List Char} (h : '\n' ∉ line) (others : List Char) :
    (line ++ '\n' :: others).idxOf '\n' = line.length := by
  rw [List.idxOf_append_of_notMem h, List.idxOf_cons_self, Nat.add_zero]

/-! ## Readers

A reader of text fails with an error; a reader of several parts is a `do` block. -/

section Reader

variable {ε α β : Type}

theorem ok_bind (x : α) (f : α → Except ε β) : (Except.ok x >>= f) = f x := rfl

/-- What succeeds has come through its first part. -/
theorem exists_ok_of_bind {x : Except ε α} {f : α → Except ε β} {b : β} (h : (x >>= f) = .ok b) :
    ∃ a, x = .ok a ∧ f a = .ok b := by
  cases x with
  | error e => cases h
  | ok a => exact ⟨a, rfl, h⟩

theorem map_some_eq {x : Except ε α} {a : α} : x.map some = .ok (some a) ↔ x = .ok a := by
  cases x with
  | error e => exact ⟨nofun, nofun⟩
  | ok b => exact ⟨fun h => congrArg _ (Option.some.inj (Except.ok.inj h)), fun h => h ▸ rfl⟩

end Reader

/-! ## Trimming -/

section Trim

variable {α : Type*} {p : α → Bool} {a b : List α}

theorem rdropWhile_append_of_forall (h : ∀ x ∈ b, p x = true) :
    (a ++ b).rdropWhile p = a.rdropWhile p := by
  rw [List.rdropWhile, List.reverse_append, List.dropWhile_append_of_pos (by simpa using h)]
  rfl

theorem rdropWhile_append_of_exists (h : ∃ x ∈ b, p x = false) :
    (a ++ b).rdropWhile p = a ++ b.rdropWhile p := by
  have hne : (b.reverse.dropWhile p).isEmpty = false := by
    obtain ⟨x, hx, hp⟩ := h
    by_contra hempty
    have hall := List.dropWhile_eq_nil_iff.mp (List.isEmpty_iff.mp (by simpa using hempty))
    cases hp.symm.trans (hall x hx)
  rw [List.rdropWhile, List.reverse_append, List.dropWhile_append, hne]
  simp [List.rdropWhile]

end Trim

/-! ## Lines of numbers -/

/-- A number on each line, and no newline at the end. -/
def numberLines : Int → List Int → List Char
  | z, [] => decimal z
  | z, z' :: zs => decimal z ++ '\n' :: numberLines z' zs

theorem isText_numberLines (zs : List Int) : ∀ z, IsText (numberLines z zs) := by
  induction zs with
  | nil => exact fun _ => isText_decimal
  | cons z' zs ih => exact fun _ => isText_decimal.newline (ih z')

theorem length_numberLines_le (hk : 0 < k) (zs : List Int) :
    ∀ z, (∀ n ∈ z :: zs, n.natAbs < 10 ^ k) →
      (numberLines z zs).length ≤ (k + 2) * (zs.length + 1) := by
  induction zs with
  | nil =>
    intro z h
    have := length_decimal_le hk (h z List.mem_cons_self)
    simp only [numberLines, List.length_nil]
    omega
  | cons z' zs ih =>
    intro z h
    have hline := length_decimal_le hk (h z List.mem_cons_self)
    have hrest := ih z' fun n hn => h n (List.mem_cons_of_mem _ hn)
    rw [List.length_cons, Nat.mul_succ]
    simp only [numberLines, List.length_append, List.length_cons]
    omega

theorem dropWhile_isBlank_decimal (z : Int) (others : List Char) :
    (decimal z ++ others).dropWhile isBlank = decimal z ++ others := by
  cases hd : decimal z with
  | nil => exact absurd hd decimal_ne_nil
  | cons c line =>
    have hc := isBlank_of_mem_decimal (hd ▸ List.mem_cons_self : c ∈ decimal z)
    exact List.dropWhile_cons_of_neg (by simp [hc])

theorem rdropWhile_isBlank_decimal (others : List Char) (z : Int) :
    (others ++ decimal z).rdropWhile isBlank = others ++ decimal z := by
  refine List.rdropWhile_eq_self_iff.mpr fun hne => ?_
  rw [List.getLast_append_of_ne_nil hne decimal_ne_nil,
    isBlank_of_mem_decimal (List.getLast_mem decimal_ne_nil)]
  exact Bool.false_ne_true

theorem numberLines_last (zs : List Int) : ∀ z, ∃ others n, numberLines z zs = others ++ decimal n := by
  induction zs with
  | nil => exact fun z => ⟨[], z, rfl⟩
  | cons z' zs ih =>
    intro z
    obtain ⟨others, n, h⟩ := ih z'
    refine ⟨decimal z ++ '\n' :: others, n, ?_⟩
    rw [numberLines, h, List.append_assoc, List.cons_append]

theorem numberLines_first (z : Int) (zs : List Int) :
    ∃ others, numberLines z zs = decimal z ++ others := by
  cases zs with
  | nil => exact ⟨[], (List.append_nil _).symm⟩
  | cons z' zs => exact ⟨_, rfl⟩

end Text
