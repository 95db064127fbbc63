import Mathlib.Data.List.Basic

/-!
# The `str` methods of the argument parser

`trim_start_matches`, `trim_matches`, `trim_end_matches`, `ends_with` and `split`,
each written on the string's characters. The lemmas say what they do on the shapes
`build_json_from_params` meets: a `--name` flag, and a comma-separated list with
or without brackets.
-/

namespace EvsCli

def trimStartMatches (s : String) (c : Char) : String := ⟨s.toList.dropWhile (· == c)⟩

def trimEndMatches (s : String) (c : Char) : String := ⟨(s.toList.reverse.dropWhile (· == c)).reverse⟩

def trimMatches (s : String) (c : Char) : String := trimEndMatches (trimStartMatches s c) c

def endsWith (s : String) (c : Char) : Bool := s.toList.getLast? == some c

/-- `s.split(p)`: the pieces between the characters `p` accepts, empty pieces included. -/
def split (s : String) (p : Char → Bool) : List String := (s.toList.splitOnP p).map String.mk

theorem trimStartMatches_flag {n : String} (h : n.toList.head? ≠ some '-') :
    trimStartMatches ("--" ++ n) '-' = n := by
  obtain ⟨l⟩ := n
  cases l with
  | nil => rfl
  | cons c cs =>
    have : c ≠ '-' := fun hc => h (by simp [hc])
    simp [trimStartMatches, this]

/-! ## Splitting a joined list -/

section
variable {p : Char → Bool}

theorem splitOnP_append_sep {c : Char} (hc : p c) :
    ∀ l : List Char, l.splitOnP p ++ [[]] = (l ++ [c]).splitOnP p
  | [] => by simp [List.splitOnP_cons, hc, List.splitOnP_nil]
  | a :: l => by
    rw [List.cons_append, List.splitOnP_cons, List.splitOnP_cons, ← splitOnP_append_sep hc l]
    split
    · rfl
    · cases h : l.splitOnP p with
      | nil => exact absurd h (List.splitOnP_ne_nil _ _)
      | cons x xs => rfl

theorem splitOnP_joined {sep : Char} (hsep : p sep) :
    ∀ (x : List Char) (xs : List (List Char)), (∀ c ∈ x, ¬ p c) → (∀ y ∈ xs, ∀ c ∈ y, ¬ p c) →
      (x ++ (xs.map (sep :: ·)).flatten).splitOnP p = x :: xs
  | x, [], hx, _ => by simpa using List.splitOnP_eq_single p x hx
  | x, y :: ys, hx, hys => by
    rw [List.map_cons, List.flatten_cons, List.cons_append, List.splitOnP_first p x hx sep hsep,
      splitOnP_joined hsep y ys (hys y (List.mem_cons_self _ _))
        (fun z hz => hys z (List.mem_cons_of_mem _ hz))]

end

theorem toList_intercalate_go (acc s : String) :
    ∀ l : List String, (String.intercalate.go acc s l).toList =
      acc.toList ++ (l.map fun a => s.toList ++ a.toList).flatten
  | [] => by simp [String.intercalate.go]
  | a :: as => by
    rw [String.intercalate.go, toList_intercalate_go]
    simp [List.append_assoc]

/-- The array delimiters of `build_json_from_params`: `,`, `[` and `]`. -/
def isArrayDelimiter (c : Char) : Bool := c == ',' || c == '[' || c == ']'

/-- The pieces of an element list joined by commas, once the empty ones are dropped. -/
theorem split_intercalate (es : List String)
    (hes : ∀ e ∈ es, e ≠ "" ∧ ∀ c ∈ e.toList, ¬ isArrayDelimiter c) :
    (split (String.intercalate "," es) isArrayDelimiter).filter (· ≠ "") = es := by
  cases es with
  | nil => rfl
  | cons e es =>
    have hsplit : (String.intercalate "," (e :: es)).toList.splitOnP isArrayDelimiter =
        e.toList :: es.map String.toList := by
      rw [String.intercalate, toList_intercalate_go]
      convert @splitOnP_joined isArrayDelimiter ',' rfl e.toList (es.map String.toList)
        (hes e (List.mem_cons_self _ _)).2 (by simpa using fun y hy => (hes y (.tail _ hy)).2) using 3
      simp [Function.comp_def]
    have hmk : ∀ l : List String, l.map (fun a => String.mk a.toList) = l := fun l => by simp
    rw [split, hsplit, ← List.map_cons, List.map_map, Function.comp_def, hmk]
    exact List.filter_eq_self.mpr fun e he => by simpa using (hes e he).1

/-- The same list between brackets: the two outer pieces are empty and dropped too. -/
theorem split_bracketed (es : List String)
    (hes : ∀ e ∈ es, e ≠ "" ∧ ∀ c ∈ e.toList, ¬ isArrayDelimiter c) :
    (split ("[" ++ String.intercalate "," es ++ "]") isArrayDelimiter).filter (· ≠ "") = es := by
  have h : ("[" ++ String.intercalate "," es ++ "]").toList.splitOnP isArrayDelimiter =
      [] :: ((String.intercalate "," es).toList.splitOnP isArrayDelimiter ++ [[]]) := by
    rw [@splitOnP_append_sep isArrayDelimiter ']' rfl]
    simp [List.splitOnP_cons, isArrayDelimiter]
  have := split_intercalate es hes
  rw [split] at this ⊢
  rw [h]
  simpa using this

end EvsCli
