import Mathlib.Data.List.Basic
import Mathlib.Data.List.Infix

/-!
# Search

Where a text occurs in another one, for texts that consist of lines and of words.

* `find`: the place of the first occurrence.
* `joinLines`: lines, each with a separator at its end.
* `words`: what stands between separators, without empty words.

`lineFrom_find` and `lineFrom_find_sep` say what is found in a text of lines: the rest of the first line
that has it, or the first line that begins with it. `find?_words` is the same for words.
-/

namespace Search

variable {α : Type*}

def joinLines (sep : α) (lines : List (List α)) : List α := lines.flatMap fun line => line ++ [sep]

/-- The word that ends at a separator, if one has begun. -/
def close : List α → List (List α)
  | [] => []
  | a :: word => [a :: word]

/-- The first argument is the word that has begun. -/
def words (p : α → Bool) : List α → List α → List (List α)
  | word, [] => close word
  | word, a :: text => if p a then close word ++ words p [] text else words p (word ++ [a]) text

variable {sep a : α} {needle key line rest text : List α} {lines : List (List α)} {p : α → Bool}

@[simp] theorem joinLines_nil : joinLines sep [] = [] := rfl

@[simp] theorem joinLines_cons :
    joinLines sep (line :: lines) = line ++ sep :: joinLines sep lines := by
  simp [joinLines]

/-! ## Lines -/

theorem prefix_append_sep (h : sep ∉ needle) : needle <+: line ++ sep :: rest ↔ needle <+: line := by
  induction needle generalizing line with
  | nil => simp
  | cons a needle ih =>
    have hne := List.ne_of_not_mem_cons h
    cases line with
    | nil => simp [List.cons_prefix_cons, Ne.symm hne]
    | cons b line =>
      rw [List.cons_append, List.cons_prefix_cons, List.cons_prefix_cons,
        ih (List.not_mem_of_not_mem_cons h)]

theorem not_prefix_sep (h : sep ∉ needle) (hne : needle ≠ []) : ¬ needle <+: sep :: rest := by
  intro hpre
  have hnil : needle <+: [] :=
    (prefix_append_sep h).mp (show needle <+: [] ++ sep :: rest from hpre)
  exact hne (List.prefix_nil.mp hnil)

theorem infix_append_sep (h : sep ∉ needle) :
    needle <:+: line ++ sep :: rest ↔ needle <:+: line ∨ needle <:+: rest := by
  by_cases hne : needle = []
  · simp [hne]
  · induction line with
    | nil =>
      rw [List.nil_append, List.infix_cons_iff, List.infix_nil]
      simp [not_prefix_sep h hne, hne]
    | cons b line ih =>
      rw [List.cons_append, List.infix_cons_iff, ih, List.infix_cons_iff, ← List.cons_append,
        prefix_append_sep h, or_assoc]

theorem drop_line {n : ℕ} : (line ++ sep :: rest).drop (n + (line.length + 1)) = rest.drop n := by
  rw [Nat.add_comm, ← List.drop_drop, ← List.drop_drop, List.drop_left]
  rfl

/-! ## Occurrences -/

section Find

variable [DecidableEq α]

def find (needle : List α) : List α → Option ℕ
  | [] => if needle = [] then some 0 else none
  | a :: text => if needle.isPrefixOf (a :: text) then some 0 else (find needle text).map (· + 1)

theorem find_start (h : needle <+: text) : find needle text = some 0 := by
  cases text with
  | nil => rw [find, if_pos (List.prefix_nil.mp h)]
  | cons a text => rw [find, if_pos (List.isPrefixOf_iff_prefix.mpr h)]

theorem find_cons (h : ¬ needle <+: a :: text) :
    find needle (a :: text) = (find needle text).map (· + 1) := by
  rw [find, if_neg fun hpre => h (List.isPrefixOf_iff_prefix.mp hpre)]

theorem find_eq_none_iff : find needle text = none ↔ ¬ needle <:+: text := by
  induction text with
  | nil => simp [find]
  | cons a text ih =>
    by_cases h : needle <+: a :: text
    · simp [find_start h, h.isInfix]
    · rw [find_cons h, Option.map_eq_none_iff, ih, List.infix_cons_iff]
      simp [h]

/-- In a line, or behind it. -/
theorem find_line (h : sep ∉ needle) (hne : needle ≠ []) :
    find needle (line ++ sep :: rest) =
      (find needle line).or ((find needle rest).map (· + (line.length + 1))) := by
  induction line with
  | nil =>
    rw [List.nil_append, find_cons (not_prefix_sep h hne), find, if_neg hne]
    rfl
  | cons b line ih =>
    by_cases hpre : needle <+: b :: line
    · rw [find_start hpre, find_start (hpre.trans (List.prefix_append _ _))]
      rfl
    · have hlong : ¬ needle <+: b :: (line ++ sep :: rest) := by
        rw [← List.cons_append, prefix_append_sep h]
        exact hpre
      rw [List.cons_append, find_cons hlong, ih, find_cons hpre]
      cases find needle line with
      | some n => rfl
      | none => simp [Function.comp_def, Nat.add_assoc]

/-- At the end of a line, or behind it. -/
theorem find_sep_line (hline : sep ∉ line) :
    find (sep :: key) (line ++ sep :: rest) =
      if key <+: rest then some line.length
      else (find (sep :: key) rest).map (· + (line.length + 1)) := by
  induction line with
  | nil =>
    rw [List.nil_append]
    by_cases hkey : key <+: rest
    · rw [find_start (List.cons_prefix_cons.mpr ⟨rfl, hkey⟩), if_pos hkey]
      rfl
    · rw [find_cons fun h => hkey (List.cons_prefix_cons.mp h).2, if_neg hkey]
      rfl
  | cons b line ih =>
    have hne := List.ne_of_not_mem_cons hline
    rw [List.cons_append, find_cons fun h => hne (List.cons_prefix_cons.mp h).1,
      ih (List.not_mem_of_not_mem_cons hline)]
    split
    · rfl
    · simp [Function.comp_def, Nat.add_assoc]

theorem le_of_find {n : ℕ} (h : find needle text = some n) : n ≤ text.length := by
  induction text generalizing n with
  | nil =>
    rw [find] at h
    split at h
    · cases h
      exact Nat.le_refl 0
    · cases h
  | cons a text ih =>
    by_cases hpre : needle <+: a :: text
    · rw [find_start hpre] at h
      cases h
      exact Nat.zero_le _
    · rw [find_cons hpre] at h
      obtain ⟨m, hm, rfl⟩ := Option.map_eq_some_iff.mp h
      exact Nat.succ_le_succ (ih hm)

/-! ## What is found in lines -/

/-- The rest of the line, from a place in it on. -/
theorem takeWhile_line {n : ℕ} (hline : sep ∉ line) (hn : n ≤ line.length) :
    ((line ++ sep :: rest).drop n).takeWhile (fun a => a ≠ sep) = line.drop n := by
  rw [List.drop_append_of_le_length hn, List.takeWhile_append_of_pos]
  · simp
  · intro a ha
    exact decide_eq_true fun hsep => hline (hsep ▸ List.mem_of_mem_drop ha)

/-- The first line with the text in it, from there on. -/
theorem lineFrom_find (h : sep ∉ needle) (hne : needle ≠ []) (hlines : ∀ line ∈ lines, sep ∉ line) :
    (find needle (joinLines sep lines)).map
        (fun n => ((joinLines sep lines).drop n).takeWhile fun a => a ≠ sep) =
      (lines.find? fun line => needle <:+: line).bind fun line =>
        (find needle line).map fun n => line.drop n := by
  induction lines with
  | nil => simp [find, hne]
  | cons line lines ih =>
    obtain ⟨hline, hrest⟩ := List.forall_mem_cons.mp hlines
    rw [joinLines_cons, find_line h hne]
    cases hfind : find needle line with
    | some n =>
      have hin : needle <:+: line := by
        by_contra hout
        rw [find_eq_none_iff.mpr hout] at hfind
        cases hfind
      rw [List.find?_cons_of_pos (by simpa using hin), Option.bind_some, hfind]
      exact congrArg some (takeWhile_line hline (le_of_find hfind))
    | none =>
      have hout := find_eq_none_iff.mp hfind
      rw [List.find?_cons_of_neg (by simpa using hout), ← ih hrest, Option.none_or, Option.map_map]
      exact congrArg (Option.map · _) (funext fun n => by rw [Function.comp_apply, drop_line])

/-- The first line behind a separator that begins with the text. -/
theorem lineFrom_find_sep (h : sep ∉ key) (hne : key ≠ []) (hlines : ∀ line ∈ lines, sep ∉ line) :
    (find (sep :: key) (joinLines sep lines)).map
        (fun n => ((joinLines sep lines).drop (n + 1)).takeWhile fun a => a ≠ sep) =
      lines.tail.find? fun line => key <+: line := by
  induction lines with
  | nil => simp [find]
  | cons line lines ih =>
    obtain ⟨hline, hrest⟩ := List.forall_mem_cons.mp hlines
    cases lines with
    | nil => simp [find_sep_line hline, List.prefix_nil, hne, find]
    | cons next lines =>
      have hnext := (List.forall_mem_cons.mp hrest).1
      have hpre : key <+: joinLines sep (next :: lines) ↔ key <+: next := by
        rw [joinLines_cons, prefix_append_sep h]
      rw [joinLines_cons, find_sep_line hline, List.tail_cons]
      by_cases hkey : key <+: next
      · rw [if_pos (hpre.mpr hkey), List.find?_cons_of_pos (by simpa using hkey), Option.map_some,
          ← Nat.zero_add (line.length + 1), drop_line, joinLines_cons]
        exact congrArg some (takeWhile_line hnext (Nat.zero_le _))
      · rw [if_neg (mt hpre.mp hkey), List.find?_cons_of_neg (by simpa using hkey), Option.map_map]
        refine Eq.trans ?_ (ih hrest)
        refine congrArg (Option.map · _) (funext fun n => ?_)
        rw [Function.comp_apply, Nat.add_right_comm, drop_line]

end Find

/-! ## Words -/

section Words

variable {word : List α} {q : List α → Bool}

theorem words_append_sep (hsep : p sep = true) :
    words p word (line ++ sep :: rest) = words p word line ++ words p [] rest := by
  induction line generalizing word with
  | nil => simp only [List.nil_append, words, hsep, if_true]
  | cons a line ih =>
    rw [List.cons_append, words, words]
    split
    · rw [ih, List.append_assoc]
    · exact ih

theorem words_of_forall (h : ∀ a ∈ line, p a = false) (hne : word ++ line ≠ []) :
    words p word line = [word ++ line] := by
  induction line generalizing word with
  | nil =>
    rw [List.append_nil] at hne ⊢
    cases word with
    | nil => exact absurd rfl hne
    | cons a word => rfl
  | cons a line ih =>
    obtain ⟨ha, hline⟩ := List.forall_mem_cons.mp h
    rw [words, if_neg (by simp [ha]), ih hline (by simp), List.append_assoc, List.singleton_append]

theorem mem_close {w : List α} (h : w ∈ close word) : w = word := by
  cases word with
  | nil => cases h
  | cons a word => exact List.mem_singleton.mp h

/-- A word is a piece of the text. -/
theorem infix_of_mem_words {w : List α} (h : w ∈ words p word line) : w <:+: word ++ line := by
  induction line generalizing word with
  | nil =>
    rw [mem_close h, List.append_nil]
  | cons a line ih =>
    rw [words] at h
    split at h
    · rcases List.mem_append.mp h with h | h
      · rw [mem_close h]
        exact (List.prefix_append _ _).isInfix
      · have hrest := ih h
        rw [List.nil_append] at hrest
        exact hrest.trans ((List.suffix_cons a line).trans (List.suffix_append word _)).isInfix
    · have hrest := ih h
      rwa [List.append_assoc, List.singleton_append] at hrest

/-- The first word of a kind, where each line either has none or is one as a whole. -/
theorem find?_words (hsep : p sep = true)
    (hlines : ∀ line ∈ lines, if q line then line ≠ [] ∧ ∀ a ∈ line, p a = false
      else ∀ w, w <:+: line → q w = false) :
    (words p [] (joinLines sep lines)).find? q = lines.find? q := by
  induction lines with
  | nil => rfl
  | cons line lines ih =>
    obtain ⟨hline, hrest⟩ := List.forall_mem_cons.mp hlines
    rw [joinLines_cons, words_append_sep hsep, List.find?_append, ih hrest]
    split at hline
    · next hq =>
      have hword : words p [] line = [line] := words_of_forall hline.2 hline.1
      rw [hword, List.find?_cons_of_pos hq, List.find?_cons_of_pos hq]
      rfl
    · next hq =>
      have hnone : (words p [] line).find? q = none := by
        refine List.find?_eq_none.mpr fun w hw => ?_
        rw [hline w (infix_of_mem_words hw)]
        exact Bool.false_ne_true
      rw [hnone, List.find?_cons_of_neg hq, Option.none_or]

end Words

end Search
