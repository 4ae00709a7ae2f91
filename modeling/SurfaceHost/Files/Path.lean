/-!
# Paths

File paths as text with slashes between names, and their lexical operations: none of
them looks at a disk.  A clean path is never longer (`length_clean_le`), so who goes from
directory to directory upwards comes to one that is its own directory
(`height_directory_lt`).
-/

namespace SurfaceHost

namespace Path

/-- The names in a path; slashes in a row count as one. -/
def names (path : String) : List String :=
  ((path.toList.splitOn '/').map String.ofList).filter (· ≠ "")

/-- Whether a path starts at the root. -/
def isAbsolute (path : String) : Bool :=
  path.startsWith "/"

/-- Adds a name to a clean path, given by its names from last to first: `.` changes
nothing and `..` takes a name back, unless there is none to take. -/
def descend (absolute : Bool) (above : List String) (name : String) : List String :=
  if name = "." then above
  else if name = ".." then
    match above with
    | [] => if absolute then [] else [".."]
    | last :: rest => if last = ".." then ".." :: above else rest
  else name :: above

/-- Puts names together to a path. -/
def render (absolute : Bool) (names : List String) : String :=
  let body := "/".intercalate names
  if absolute then "/" ++ body else if names.isEmpty then "." else body

/-- The shortest path that means the same. -/
def clean (path : String) : String :=
  let absolute := isAbsolute path
  render absolute ((names path).foldl (descend absolute) []).reverse

/-- One path after the other, clean; empty ones are left out. -/
def join (paths : List String) : String :=
  match paths.filter (· ≠ "") with
  | [] => ""
  | paths => clean ("/".intercalate paths)

/-- All but the last name, clean. -/
def directory (path : String) : String :=
  clean (String.ofList ((path.toList.reverse.dropWhile (· ≠ '/')).reverse))

/-- The last name. -/
def base (path : String) : String :=
  if path = "" then "."
  else (names path).getLast?.getD "/"

/-- The path seen from the root, when `cwd` is the working directory. -/
def absolute (cwd path : String) : String :=
  if isAbsolute path then clean path else join [cwd, path]

/-! ### The names of a path -/

theorem names_empty :
  names "" = []
  := rfl

theorem names_append_slash (front back : String) :
  names (front ++ "/" ++ back) = names front ++ names back
  := by
  simp [names, List.splitOn_append_cons_self]

theorem names_slash_append (path : String) :
  names ("/" ++ path) = names path
  := by
  simpa [names_empty] using names_append_slash "" path

theorem isAbsolute_iff {path : String} :
  isAbsolute path ↔ ∃ rest, path = "/" ++ rest
  := by
  rw [isAbsolute, String.startsWith_string_iff]
  constructor
  · rintro ⟨rest, hrest⟩
    refine ⟨String.ofList rest, ?_⟩
    rw [← String.toList_inj]
    simp [← hrest]
  · rintro ⟨rest, rfl⟩
    simp

/-- A slash at the end adds no name. -/
theorem clean_append_slash {path : String} (h : path ≠ "") :
  clean (path ++ "/") = clean path
  := by
  have hnames : names (path ++ "/") = names path := by
    simpa [names_empty] using names_append_slash path ""
  have habsolute : isAbsolute (path ++ "/") = isAbsolute path := by
    rcases hpath : path.toList with _ | ⟨c, rest⟩
    · exact absurd (String.toList_eq_nil_iff.mp hpath) h
    · rw [Bool.eq_iff_iff]
      simp [isAbsolute, String.startsWith_string_iff, hpath]
  rw [clean, clean, hnames, habsolute]

/-! ### The length of a clean path -/

/-- How long some names are together, with a slash for each of them. -/
def span : List String → Nat
  | [] => 0
  | name :: rest => name.length + 1 + span rest

theorem span_append (front back : List String) :
  span (front ++ back) = span front + span back
  := by
  induction front with
  | nil => exact (Nat.zero_add _).symm
  | cons name rest ih => rw [List.cons_append, span, span, ih, ← Nat.add_assoc]

theorem span_reverse (names : List String) :
  span names.reverse = span names
  := by
  induction names with
  | nil => rfl
  | cons name rest ih =>
    rw [List.reverse_cons, span_append, ih, span, Nat.add_comm]
    rfl

theorem span_filter_le (p : String → Bool) (names : List String) :
  span (names.filter p) ≤ span names
  := by
  induction names with
  | nil => apply Nat.le_refl
  | cons name rest ih =>
    rw [List.filter_cons]
    split
    · apply Nat.add_le_add_left ih
    · apply Nat.le_trans ih (Nat.le_add_left _ _)

/-- Between names there is one slash less than there are names. -/
theorem length_intercalate {names : List String} (h : names ≠ []) :
  ("/".intercalate names).length + 1 = span names
  := by
  have hslash : "/".length = 1 := rfl
  induction names with
  | nil => contradiction
  | cons name rest ih =>
    by_cases hrest : rest = []
    · subst hrest
      simp [span]
    · rw [String.intercalate_cons_of_ne_nil hrest, span, ← ih hrest]
      simp only [String.length_append]
      omega

theorem span_names_le (path : String) :
  span (names path) ≤ path.length + 1
  := by
  have hpieces : "/".intercalate ((path.toList.splitOn '/').map String.ofList) = path := by
    rw [← String.toList_inj, String.toList_intercalate]
    simp [Function.comp_def, List.intercalate_splitOn]
  have hspan : path.length + 1 = span ((path.toList.splitOn '/').map String.ofList) := by
    rw [← length_intercalate (by simp), hpieces]
  rw [hspan]
  apply span_filter_le

theorem span_descend_le (absolute : Bool) (above : List String) (name : String) :
  span (descend absolute above name) ≤ span above + (name.length + 1)
  := by
  have hpush : span (name :: above) = span above + (name.length + 1) := Nat.add_comm _ _
  unfold descend
  split
  · apply Nat.le_add_right
  · split
    next hname =>
      subst hname
      rcases above with _ | ⟨last, rest⟩
      · cases absolute <;> decide
      · dsimp only
        split
        · exact Nat.le_of_eq hpush
        · rw [span]
          omega
    next => exact Nat.le_of_eq hpush

theorem span_foldl_descend_le (absolute : Bool) (names above : List String) :
  span (names.foldl (descend absolute) above) ≤ span above + span names
  := by
  induction names generalizing above with
  | nil => apply Nat.le_refl
  | cons name rest ih =>
    have hstep := span_descend_le absolute above name
    have hrest := ih (descend absolute above name)
    rw [List.foldl_cons, span]
    omega

/-- The empty path apart, which is cleaned to `.`, cleaning makes no path longer. -/
theorem length_clean_le {path : String} (h : path ≠ "") :
  (clean path).length ≤ path.length
  := by
  have hpos : 0 < path.length := by
    rw [Nat.pos_iff_ne_zero]
    simpa using h
  have hkept := span_foldl_descend_le (isAbsolute path) (names path) []
  rw [← span_reverse, span, Nat.zero_add] at hkept
  rw [clean, render]
  generalize ((names path).foldl (descend (isAbsolute path)) []).reverse = kept at hkept
  by_cases hempty : kept = []
  · subst hempty
    split
    · exact hpos
    · exact hpos
  · have hlength := length_intercalate hempty
    split
    next habsolute =>
      -- The slash in front stands before no name, so the names have one character less.
      obtain ⟨rest, rfl⟩ := isAbsolute_iff.mp habsolute
      have hnames := span_names_le rest
      rw [names_slash_append] at hkept
      simp only [String.length_append]
      omega
    next =>
      have hnames := span_names_le path
      rw [if_neg (by simpa using hempty)]
      omega

/-! ### Going up -/

theorem exists_last_slash {path : String} (h : '/' ∈ path.toList) :
  ∃ front name, path = front ++ "/" ++ name ∧ '/' ∉ name.toList
  := by
  obtain ⟨back, front, hpath, hback⟩ := List.eq_append_cons_of_mem (List.mem_reverse.mpr h)
  refine ⟨String.ofList front.reverse, String.ofList back.reverse, ?_, ?_⟩
  · rw [← String.toList_inj, ← List.reverse_inj]
    simpa using hpath
  · simpa using hback

theorem dropWhile_reverse_append {name : String} (h : '/' ∉ name.toList) (front : List Char) :
  (name.toList.reverse ++ front).dropWhile (· ≠ '/') = front.dropWhile (· ≠ '/')
  := by
  apply List.dropWhile_append_of_pos
  intro c hc
  apply decide_eq_true
  rintro rfl
  exact h (List.mem_reverse.mp hc)

theorem directory_append_slash {front name : String} (h : '/' ∉ name.toList) :
  directory (front ++ "/" ++ name) = clean (front ++ "/")
  := by
  have hdrop := dropWhile_reverse_append h (front ++ "/").toList.reverse
  rw [← List.reverse_append, ← String.toList_append] at hdrop
  rw [directory, hdrop]
  simp

theorem directory_of_not_mem {path : String} (h : '/' ∉ path.toList) :
  directory path = "."
  := by
  have hdrop := dropWhile_reverse_append h []
  rw [List.append_nil] at hdrop
  rw [directory, hdrop]
  decide

/-- The way up from a path has at most this many steps. -/
def height (path : String) : Nat :=
  if path = "." then 0 else path.length + 1

theorem height_le (path : String) :
  height path ≤ path.length + 1
  := by
  unfold height
  split
  · apply Nat.zero_le
  · apply Nat.le_refl

/-- The way up ends. -/
theorem height_directory_lt {path : String} (h : directory path ≠ path) :
  height (directory path) < height path
  := by
  have hpath : path ≠ "." := by
    rintro rfl
    exact h (by decide)
  rw [height.eq_def path, if_neg hpath]
  by_cases hslash : '/' ∈ path.toList
  · obtain ⟨front, name, rfl, hname⟩ := exists_last_slash hslash
    rw [directory_append_slash hname] at h ⊢
    apply Nat.lt_of_le_of_lt (height_le _)
    have hone : "/".length = 1 := rfl
    simp only [String.length_append, Nat.add_lt_add_iff_right]
    by_cases hfront : front = ""
    · subst hfront
      have hroot : clean ("" ++ "/") = "/" := by decide +kernel
      rw [hroot, String.empty_append] at h
      have hpos : name.length ≠ 0 := by
        intro hzero
        rw [String.length_eq_zero_iff.mp hzero] at h
        exact h rfl
      rw [hroot]
      omega
    · rw [clean_append_slash hfront]
      have hle := length_clean_le hfront
      omega
  · rw [directory_of_not_mem hslash]
    apply Nat.succ_pos

end Path

end SurfaceHost
