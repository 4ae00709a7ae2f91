import SurfaceHost.Files.Path
import Mathlib.Data.List.Induction
import Mathlib.Logic.Function.Iterate

/-!
# Clean paths from the root

A path is rooted if it starts at the root and is clean.  Rooted paths are the same as lists of
plain names: every such path is put together from its names (`IsRooted.render_names`), and the
names can be read off what is put together from them (`names_render`).  Adding a name to the path
adds it at the end of the list (`join_render`), and the directory of the path is the list without
its last name (`directory_render`).  So the way up from a rooted path has as many steps as there
are names, and ends at the root (`directory_iterate_eq_iff`).
-/

namespace SurfaceHost

namespace Path

/-- A name that leads from a directory to something in it. -/
structure IsPlain (name : String) : Prop where
  ne_empty : name ≠ ""
  no_slash : '/' ∉ name.toList
  ne_here : name ≠ "."
  ne_up : name ≠ ".."

/-- A clean path from the root. -/
structure IsRooted (path : String) : Prop where
  absolute : isAbsolute path
  clean : clean path = path

/-- A directory, given by a rooted path, is where a path leads to or is above it. -/
structure Encloses (directory path : String) : Prop where
  rooted : IsRooted directory
  names : names directory <+: names path

theorem isPlain_of_isPrefix {front names : List String} (h : ∀ name ∈ names, IsPlain name)
    (hbegins : front <+: names) :
  ∀ name ∈ front, IsPlain name
  := by
  intro name hname
  exact h name (hbegins.subset hname)

/-! ### Reading names -/

theorem not_mem_of_mem_splitOn {c : Char} {text piece : List Char} (h : piece ∈ text.splitOn c) :
  c ∉ piece
  := by
  induction text generalizing piece with
  | nil =>
    rw [List.splitOn_nil, List.mem_singleton] at h
    simp [h]
  | cons d rest ih =>
    rw [List.splitOn_cons_eq_if_modifyHead] at h
    split at h
    · rcases List.mem_cons.mp h with rfl | h
      · apply List.not_mem_nil
      · exact ih h
    next hd =>
      -- The first character belongs to the first piece of the rest.
      obtain ⟨first, pieces, hrest⟩ := List.exists_cons_of_ne_nil (List.splitOn_ne_nil c rest)
      rw [hrest] at h ih
      rcases List.mem_cons.mp h with rfl | h
      · rw [List.mem_cons, not_or]
        exact ⟨fun hc => hd (beq_iff_eq.mpr hc.symm), ih List.mem_cons_self⟩
      · exact ih (List.mem_cons_of_mem _ h)

theorem ne_empty_of_mem_names {path name : String} (h : name ∈ names path) :
  name ≠ ""
  := by
  simpa using (List.mem_filter.mp h).2

theorem no_slash_of_mem_names {path name : String} (h : name ∈ names path) :
  '/' ∉ name.toList
  := by
  obtain ⟨piece, hpiece, rfl⟩ := List.mem_map.mp (List.mem_filter.mp h).1
  rw [String.toList_ofList]
  apply not_mem_of_mem_splitOn hpiece

theorem names_eq_singleton {name : String} (h : IsPlain name) :
  names name = [name]
  := by
  rw [names, List.splitOn_eq_singleton h.no_slash]
  simp [h.ne_empty]

/-- The names of a text that puts plain names together. -/
theorem names_intercalate {names : List String} (h : ∀ name ∈ names, IsPlain name) :
  Path.names ("/".intercalate names) = names
  := by
  induction names with
  | nil => rfl
  | cons name rest ih =>
    have hname := names_eq_singleton (h name List.mem_cons_self)
    have hrest := ih fun n hn => h n (List.mem_cons_of_mem _ hn)
    by_cases hnil : rest = []
    · rw [hnil, String.intercalate_singleton, hname]
    · rw [String.intercalate_cons_of_ne_nil hnil, names_append_slash, hname, hrest]
      rfl

theorem render_true (names : List String) :
  render true names = "/" ++ "/".intercalate names
  := rfl

theorem names_render {names : List String} (h : ∀ name ∈ names, IsPlain name) :
  Path.names (render true names) = names
  := by
  rw [render_true, names_slash_append, names_intercalate h]

theorem isAbsolute_render (names : List String) :
  isAbsolute (render true names)
  := isAbsolute_iff.mpr ⟨_, rfl⟩

theorem render_injective {names names' : List String} (h : ∀ name ∈ names, IsPlain name)
    (h' : ∀ name ∈ names', IsPlain name) (heq : render true names = render true names') :
  names = names'
  := by
  rw [← names_render h, heq, names_render h']

/-! ### Cleaning -/

theorem isPlain_descend {above : List String} {name : String}
    (habove : ∀ n ∈ above, IsPlain n) (hempty : name ≠ "") (hslash : '/' ∉ name.toList) :
  ∀ n ∈ descend true above name, IsPlain n
  := by
  unfold descend
  split
  · exact habove
  next hhere =>
    split
    · rcases above with _ | ⟨last, rest⟩
      · simp
      · have hlast : last ≠ ".." := (habove last List.mem_cons_self).ne_up
        dsimp only
        rw [if_neg hlast]
        intro n hn
        exact habove n (List.mem_cons_of_mem _ hn)
    next hup =>
      intro n hn
      rcases List.mem_cons.mp hn with rfl | hn
      · exact ⟨hempty, hslash, hhere, hup⟩
      · exact habove n hn

theorem isPlain_foldl_descend {names above : List String} (habove : ∀ n ∈ above, IsPlain n)
    (hempty : ∀ name ∈ names, name ≠ "") (hslash : ∀ name ∈ names, '/' ∉ name.toList) :
  ∀ n ∈ names.foldl (descend true) above, IsPlain n
  := by
  induction names generalizing above with
  | nil => exact habove
  | cons name rest ih =>
    rw [List.forall_mem_cons] at hempty hslash
    apply ih _ hempty.2 hslash.2
    apply isPlain_descend habove hempty.1 hslash.1

theorem descend_eq_cons {name : String} (h : IsPlain name) (above : List String) :
  descend true above name = name :: above
  := by
  unfold descend
  rw [if_neg h.ne_here, if_neg h.ne_up]

/-- Plain names are added as they are. -/
theorem foldl_descend_eq {names : List String} (h : ∀ name ∈ names, IsPlain name)
    (above : List String) :
  names.foldl (descend true) above = names.reverse ++ above
  := by
  induction names generalizing above with
  | nil => rfl
  | cons name rest ih =>
    rw [List.forall_mem_cons] at h
    rw [List.foldl_cons, descend_eq_cons h.1, ih h.2, List.reverse_cons, List.append_assoc]
    rfl

theorem clean_eq_render {path : String} {names : List String} (habsolute : isAbsolute path)
    (hnames : Path.names path = names) (h : ∀ name ∈ names, IsPlain name) :
  clean path = render true names
  := by
  rw [clean, habsolute, hnames, foldl_descend_eq h, List.append_nil, List.reverse_reverse]

theorem isRooted_render {names : List String} (h : ∀ name ∈ names, IsPlain name) :
  IsRooted (render true names)
  where
  absolute := isAbsolute_render names
  clean := clean_eq_render (isAbsolute_render names) (names_render h) h

/-- A rooted path is put together from plain names. -/
theorem IsRooted.exists_render {path : String} (h : IsRooted path) :
  ∃ names, (∀ name ∈ names, IsPlain name) ∧ path = render true names
  := by
  refine ⟨((names path).foldl (descend true) []).reverse, ?_, ?_⟩
  · intro name hname
    apply isPlain_foldl_descend (List.forall_mem_nil _) _ _ name (List.mem_reverse.mp hname)
    · intro n hn
      exact ne_empty_of_mem_names hn
    · intro n hn
      exact no_slash_of_mem_names hn
  · calc path = Path.clean path := h.clean.symm
      _ = render true ((names path).foldl (descend true) []).reverse := by
        rw [Path.clean, h.absolute]

theorem IsRooted.isPlain {path : String} (h : IsRooted path) :
  ∀ name ∈ names path, IsPlain name
  := by
  obtain ⟨names, hplain, rfl⟩ := h.exists_render
  rw [names_render hplain]
  exact hplain

theorem IsRooted.render_names {path : String} (h : IsRooted path) :
  render true (names path) = path
  := by
  obtain ⟨names, hplain, rfl⟩ := h.exists_render
  rw [names_render hplain]

/-! ### Adding a name and dropping it -/

theorem render_ne_empty (names : List String) :
  render true names ≠ ""
  := by
  rw [render_true]
  simp

/-- A name stands behind a slash; the root has that slash already. -/
theorem render_concat (names : List String) (name : String) :
  render true (names ++ [name]) = (if names = [] then "" else render true names) ++ "/" ++ name
  := by
  split
  next hnil =>
    subst hnil
    simp [render_true]
  next hnil =>
    rw [render_true, render_true,
      String.intercalate_append_of_ne_nil hnil (List.cons_ne_nil name []),
      String.intercalate_singleton]
    simp [String.append_assoc]

theorem join_render {names : List String} {name : String} (h : ∀ name ∈ names, IsPlain name)
    (hname : IsPlain name) :
  join [render true names, name] = render true (names ++ [name])
  := by
  have hne := render_ne_empty names
  have hjoin : join [render true names, name] = clean (render true names ++ "/" ++ name) := by
    simp [join, hne, hname.ne_empty, String.intercalate_cons_cons]
  rw [hjoin]
  apply clean_eq_render
  · rw [isAbsolute_iff]
    exact ⟨_, by rw [render_true, String.append_assoc, String.append_assoc]⟩
  · rw [names_append_slash, names_render h, names_eq_singleton hname]
  · rw [List.forall_mem_append, List.forall_mem_singleton]
    exact ⟨h, hname⟩

theorem directory_render {names : List String} (h : ∀ name ∈ names, IsPlain name) :
  directory (render true names) = render true names.dropLast
  := by
  cases names using List.reverseRecOn with
  | nil => decide +kernel
  | append_singleton front name =>
    rw [List.forall_mem_append, List.forall_mem_singleton] at h
    rw [List.dropLast_concat, render_concat, directory_append_slash h.2.no_slash]
    split
    next hnil =>
      subst hnil
      decide +kernel
    next =>
      rw [clean_append_slash (render_ne_empty front)]
      exact (isRooted_render h.1).clean

/-- Of the clean paths from the root only the root is its own directory. -/
theorem directory_render_eq_self_iff {names : List String} (h : ∀ name ∈ names, IsPlain name) :
  directory (render true names) = render true names ↔ names = []
  := by
  rw [directory_render h]
  constructor
  · intro heq
    have hfront := isPlain_of_isPrefix h <| List.dropLast_prefix names
    have hlength := congrArg List.length (render_injective hfront h heq)
    rw [List.length_dropLast] at hlength
    apply List.eq_nil_of_length_eq_zero
    omega
  · rintro rfl
    rfl

/-- After some steps up that many names are gone, or all of them. -/
theorem directory_iterate_render {names : List String} (h : ∀ name ∈ names, IsPlain name)
    (n : Nat) :
  directory^[n] (render true names) = render true (names.take (names.length - n))
  := by
  induction n with
  | zero => rw [Nat.sub_zero, List.take_length, Function.iterate_zero_apply]
  | succ n ih =>
    have hfront := isPlain_of_isPrefix h <| List.take_prefix (names.length - n) names
    rw [Function.iterate_succ_apply', ih, directory_render hfront, List.dropLast_eq_take,
      List.length_take, List.take_take]
    congr 2
    omega

/-- The way up from a rooted path has as many steps as there are names. -/
theorem IsRooted.directory_iterate_eq_iff {path : String} (h : IsRooted path) (n : Nat) :
  directory^[n + 1] path = directory^[n] path ↔ (names path).length ≤ n
  := by
  obtain ⟨names, hplain, rfl⟩ := h.exists_render
  have hfront := isPlain_of_isPrefix hplain <| List.take_prefix (names.length - n) names
  rw [Function.iterate_succ_apply', directory_iterate_render hplain,
    directory_render_eq_self_iff hfront, names_render hplain, ← List.length_eq_zero_iff,
    List.length_take]
  omega

theorem IsRooted.directory_iterate_length {path : String} (h : IsRooted path) :
  directory^[(names path).length] path = "/"
  := by
  obtain ⟨names, hplain, rfl⟩ := h.exists_render
  rw [names_render hplain, directory_iterate_render hplain, Nat.sub_self]
  rfl

/-! ### Enclosing directories -/

/-- The directories that enclose a rooted path are the beginnings of its names. -/
theorem IsRooted.encloses_iff {directory path : String} (h : IsRooted path) :
  Encloses directory path ↔ ∃ names, names <+: Path.names path ∧ directory = render true names
  := by
  constructor
  · intro hencloses
    exact ⟨_, hencloses.names, hencloses.rooted.render_names.symm⟩
  · rintro ⟨names, hbegins, rfl⟩
    have hplain := isPlain_of_isPrefix h.isPlain hbegins
    constructor
    · apply isRooted_render hplain
    · rw [names_render hplain]
      exact hbegins

end Path

end SurfaceHost
