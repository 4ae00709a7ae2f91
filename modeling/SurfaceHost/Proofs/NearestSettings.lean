import SurfaceHost.Proofs.CleanPaths
import SurfaceHost.Settings.File

/-!
# The nearest settings file

The search for a settings file goes up from the working directory until it finds one or comes to a
directory that is its own.  From a clean path it tries all enclosing directories, nearest first, the
root included (`Settings.find?_eq_find?_candidates`).  So it finds the file in the deepest of them
that has one, and fails only if none has.
-/

namespace SurfaceHost

namespace Settings

/-- The settings file in a directory. -/
def fileIn (directory : String) : String :=
  (if directory = "/" then "" else directory) ++ "/" ++ fileName

/-- A directory encloses a path and has a settings file, and every other one that does lies
above it. -/
structure IsNearest (has : String → Bool) (path directory : String) : Prop where
  encloses : Path.Encloses directory path
  has_file : has (fileIn directory)
  deepest : ∀ other, Path.Encloses other path → has (fileIn other) → Path.Encloses other directory

theorem isPlain_fileName :
  Path.IsPlain fileName
  where
  ne_empty := by decide
  no_slash := by decide
  ne_here := by decide
  ne_up := by decide

theorem fileIn_render {names : List String} (h : ∀ name ∈ names, Path.IsPlain name) :
  fileIn (Path.render true names) = Path.render true (names ++ [fileName])
  := by
  have hroot : Path.render true names = "/" ↔ names = [] := by
    constructor
    · intro heq
      apply Path.render_injective h (List.forall_mem_nil _) heq
    · rintro rfl
      rfl
  simp only [fileIn, Path.render_concat, hroot]

/-! ### The directories that are tried -/

theorem ancestors_concat (front : List String) (name : String) :
  ancestors (front ++ [name]) = (front ++ [name]) :: ancestors front
  := by
  have hlength : (front ++ [name]).length = front.length + 1 := List.length_append
  rw [ancestors, hlength, List.range_succ, List.reverse_concat, List.map_cons,
    List.take_of_length_le (Nat.le_of_eq hlength)]
  congr 1
  apply List.map_congr_left
  intro k hk
  rw [List.mem_reverse, List.mem_range] at hk
  rw [List.take_append_of_le_length (Nat.le_of_lt_succ hk)]

theorem mem_ancestors {names place : List String} :
  names ∈ ancestors place ↔ names <+: place
  := by
  induction place using List.reverseRecOn with
  | nil => simp [ancestors]
  | append_singleton front name ih =>
    rw [ancestors_concat, List.mem_cons, List.prefix_concat_iff, ih]

theorem prefix_of_find?_ancestors {test : List String → Bool} {place found other : List String}
    (h : (ancestors place).find? test = some found) (hother : other <+: place)
    (htest : test other = true) :
  other <+: found
  := by
  induction place using List.reverseRecOn with
  | nil =>
    rw [List.prefix_nil.mp hother]
    apply List.nil_prefix
  | append_singleton front name ih =>
    rw [ancestors_concat, List.find?_cons] at h
    split at h
    · obtain rfl := Option.some.inj h
      exact hother
    next hfail =>
      rcases List.prefix_concat_iff.mp hother with rfl | hother
      · rw [htest] at hfail
        cases hfail
      · exact ih h hother

/-- The first hit among the ancestors is the longest one. -/
theorem find?_ancestors_eq_some_iff {test : List String → Bool} {place found : List String} :
  (ancestors place).find? test = some found
    ↔ found <+: place ∧ test found ∧ ∀ other, other <+: place → test other → other <+: found
  := by
  constructor
  · intro h
    refine ⟨mem_ancestors.mp (List.mem_of_find?_eq_some h), List.find?_some h, ?_⟩
    intro other
    apply prefix_of_find?_ancestors h
  · rintro ⟨hbegins, htest, hdeepest⟩
    have hsome : ((ancestors place).find? test).isSome :=
      List.find?_isSome.mpr ⟨found, mem_ancestors.mpr hbegins, htest⟩
    obtain ⟨first, hfirst⟩ := Option.isSome_iff_exists.mp hsome
    have hfound : found <+: first := prefix_of_find?_ancestors hfirst hbegins htest
    have hback : first <+: found :=
      hdeepest first (mem_ancestors.mp (List.mem_of_find?_eq_some hfirst)) (List.find?_some hfirst)
    rw [hfirst, hback.eq_of_length_le hfound.length_le]

/-! ### The search -/

/-- One turn of the search, which ends at the root if not before. -/
theorem find?_render {names : List String} (h : ∀ name ∈ names, Path.IsPlain name)
    (has : String → Bool) :
  find? has (Path.render true names) =
    if has (Path.render true (names ++ [fileName])) then
      some (Path.render true (names ++ [fileName]))
    else if names = [] then none
    else find? has (Path.render true names.dropLast)
  := by
  rw [find?, Path.join_render h isPlain_fileName]
  simp only [Path.directory_render_eq_self_iff h]
  rw [Path.directory_render h]

/-- The search tries the candidates, in their order. -/
theorem find?_eq_find?_candidates {cwd : String} (hcwd : Path.IsRooted cwd)
    (has : String → Bool) :
  find? has cwd = (candidates cwd).find? has
  := by
  rw [← hcwd.render_names, candidates, Path.names_render hcwd.isPlain]
  have hplain := hcwd.isPlain
  generalize Path.names cwd = names at hplain
  induction names using List.reverseRecOn with
  | nil =>
    rw [find?_render hplain, if_pos rfl]
    exact List.find?_singleton.symm
  | append_singleton front name ih =>
    rw [find?_render hplain, if_neg (List.concat_ne_nil name front), List.dropLast_concat,
      ih (List.forall_mem_append.mp hplain).1, ancestors_concat, List.map_cons, List.find?_cons]
    split
    next hhas => rw [hhas]
    next hhas => rw [Bool.eq_false_iff.mpr hhas]

/-- The file that is found is in the longest beginning of the names where there is one. -/
theorem find?_eq_map {cwd : String} (hcwd : Path.IsRooted cwd) (has : String → Bool) :
  find? has cwd =
    ((ancestors (Path.names cwd)).find? fun names => has (fileIn (Path.render true names))).map
      fun names => fileIn (Path.render true names)
  := by
  have hfile : candidates cwd
      = (ancestors (Path.names cwd)).map fun names => fileIn (Path.render true names) := by
    apply List.map_congr_left
    intro names hnames
    rw [fileIn_render (Path.isPlain_of_isPrefix hcwd.isPlain (mem_ancestors.mp hnames))]
  rw [find?_eq_find?_candidates hcwd, hfile, List.find?_map]
  rfl

/-- The search finds the file in the nearest directory that has one. -/
theorem find?_eq_some_iff {cwd path : String} (hcwd : Path.IsRooted cwd) (has : String → Bool) :
  find? has cwd = some path ↔ ∃ directory, IsNearest has cwd directory ∧ path = fileIn directory
  := by
  rw [find?_eq_map hcwd, Option.map_eq_some_iff]
  constructor
  · rintro ⟨names, hfind, rfl⟩
    obtain ⟨hbegins, hhas, hdeepest⟩ := find?_ancestors_eq_some_iff.mp hfind
    have hencloses := hcwd.encloses_iff.mpr ⟨names, hbegins, rfl⟩
    refine ⟨_, ⟨hencloses, hhas, ?_⟩, rfl⟩
    intro other hother hhas'
    obtain ⟨names', hbegins', rfl⟩ := hcwd.encloses_iff.mp hother
    apply hencloses.rooted.encloses_iff.mpr
    rw [Path.names_render (Path.isPlain_of_isPrefix hcwd.isPlain hbegins)]
    exact ⟨names', hdeepest names' hbegins' hhas', rfl⟩
  · rintro ⟨directory, hnearest, rfl⟩
    have hrender := hnearest.encloses.rooted.render_names
    refine ⟨Path.names directory, find?_ancestors_eq_some_iff.mpr ⟨?_, ?_, ?_⟩, ?_⟩
    · exact hnearest.encloses.names
    · rw [hrender]
      exact hnearest.has_file
    · intro other hbegins hhas
      have hother := hcwd.encloses_iff.mpr ⟨other, hbegins, rfl⟩
      rw [← Path.names_render (Path.isPlain_of_isPrefix hcwd.isPlain hbegins)]
      exact (hnearest.deepest _ hother hhas).names
    · rw [hrender]

/-- The search fails if no enclosing directory has a settings file. -/
theorem find?_eq_none_iff {cwd : String} (hcwd : Path.IsRooted cwd) (has : String → Bool) :
  find? has cwd = none ↔ ∀ directory, Path.Encloses directory cwd → ¬has (fileIn directory)
  := by
  rw [find?_eq_map hcwd, Option.map_eq_none_iff, List.find?_eq_none]
  constructor
  · intro h directory hdirectory
    obtain ⟨names, hnames, rfl⟩ := hcwd.encloses_iff.mp hdirectory
    exact h names (mem_ancestors.mpr hnames)
  · intro h names hnames
    apply h
    exact hcwd.encloses_iff.mpr ⟨names, mem_ancestors.mp hnames, rfl⟩

/-- Going up from a clean working directory ends at the root, after as many steps as the path has
names.  On every disk the search on this way finds the file in the nearest directory that has one,
and nothing if no enclosing directory has one.  So without a path the settings are those of the
nearest file, or the default ones. -/
theorem nearest_file_is_used {cwd : String} (hcwd : Path.IsRooted cwd) :
  Path.directory^[(Path.names cwd).length] cwd = "/"
    ∧ (∀ n, Path.directory^[n + 1] cwd = Path.directory^[n] cwd ↔ (Path.names cwd).length ≤ n)
    ∧ (∀ has : String → Bool,
      (∀ path, find? has cwd = some path
          ↔ ∃ directory, IsNearest has cwd directory ∧ path = fileIn directory)
        ∧ (find? has cwd = none
          ↔ ∀ directory, Path.Encloses directory cwd → ¬has (fileIn directory)))
    ∧ ∀ w : World, w.cwd = cwd →
      (∀ directory, IsNearest w.has cwd directory →
          loadNearest w "" = load w (fileIn directory))
        ∧ ((∀ directory, Path.Encloses directory cwd → ¬w.has (fileIn directory)) →
          loadNearest w "" = .ok default)
  := by
  refine ⟨hcwd.directory_iterate_length, hcwd.directory_iterate_eq_iff, ?_, ?_⟩
  · intro has
    constructor
    · intro path
      apply find?_eq_some_iff hcwd
    · apply find?_eq_none_iff hcwd
  · rintro w rfl
    constructor
    · intro directory hnearest
      have hfind := (find?_eq_some_iff hcwd w.has).mpr ⟨directory, hnearest, rfl⟩
      rw [loadNearest, if_neg (by simp), hfind]
    · intro hnone
      have hfind := (find?_eq_none_iff hcwd w.has).mpr hnone
      rw [loadNearest, if_neg (by simp), hfind]

/-- A file in the directory above comes before one at the root. -/
theorem nearest_file_is_used_above :
  let file : Node := .file "[log]\nlevel = 'debug'\n"
  let srv : Node := .directory [("app", .directory []), ("glview.toml", file)]
  let w : World := { disk := ⟨.directory [("srv", srv), ("glview.toml", file)]⟩, cwd := "/srv/app" }
  Path.IsRooted w.cwd
    ∧ find? w.has w.cwd = some "/srv/glview.toml"
    ∧ (∃ directory, IsNearest w.has w.cwd directory ∧ fileIn directory = "/srv/glview.toml")
    ∧ loadNearest w "" = load w "/srv/glview.toml"
  := by
  intro file srv w
  have hcwd : Path.IsRooted w.cwd := ⟨by decide +kernel, by decide +kernel⟩
  have hhere : w.has "/srv/app/glview.toml" = false := by
    unfold World.has Disk.contains Disk.lookup Disk.locate Disk.route
    rw [if_neg (by simp)]
    decide +kernel
  have habove : w.has "/srv/glview.toml" = true := by
    unfold World.has Disk.contains Disk.lookup Disk.locate Disk.route
    rw [if_neg (by simp)]
    decide +kernel
  have hcandidates : candidates w.cwd
      = ["/srv/app/glview.toml", "/srv/glview.toml", "/glview.toml"] := by
    decide +kernel
  have hfind : find? w.has w.cwd = some "/srv/glview.toml" := by
    rw [find?_eq_find?_candidates hcwd, hcandidates]
    simp only [List.find?_cons, hhere, habove]
  obtain ⟨-, -, hsearch, hload⟩ := nearest_file_is_used hcwd
  obtain ⟨directory, hnearest, hfile⟩ := ((hsearch w.has).1 _).mp hfind
  refine ⟨hcwd, hfind, ⟨directory, hnearest, hfile.symm⟩, ?_⟩
  rw [hfile]
  exact (hload w rfl).1 directory hnearest

end Settings

end SurfaceHost
