import SurfaceHost.Toml.Shape

/-!
# Settings

What can be set, and the values that hold without a settings file.
-/

namespace SurfaceHost

/-- Which engine library to use, and how. -/
structure LibrarySettings where
  /-- Empty means that the library is searched for. -/
  path : String := ""
  /-- How the names of its functions begin. -/
  symbolPrefix : String := "glview_"
  transport : String := "direct"

/-- The limits of gestures, in pixels of a display with density 1. -/
structure InputSettings where
  /-- The density of the display, where 1 is 160 dots per inch. -/
  density : Float32 := 1
  touchSlop : Float32 := 8
  longPressMs : Int64 := 500
  minFlingVelocity : Float32 := 50
  maxFlingVelocity : Float32 := 8000
  /-- How far a fling may go on each axis, in real pixels. -/
  maxFlingDistance : Int64 := 999999999

/-- The words that describe a logger. -/
structure LogSettings where
  level : String := "info"
  format : String := "text"

/-- All settings. -/
structure Settings where
  library : LibrarySettings := {}
  /-- Where the engine may keep its data. -/
  storage : String := ""
  input : InputSettings := {}
  log : LogSettings := {}

namespace Settings

/-- The settings without a settings file. -/
def default : Settings := {}

/-- What a settings file looks like. -/
def shape : Toml.Shape :=
  .record
    [("library",
        .record [("path", .text), ("symbol_prefix", .text), ("transport", .text)]),
      ("storage", .record [("path", .text)]),
      ("input",
        .record
          [("density", .real),
            ("touch_slop", .real),
            ("long_press_timeout_ms", .integer),
            ("min_fling_velocity", .real),
            ("max_fling_velocity", .real),
            ("max_fling_distance", .integer)]),
      ("log", .record [("level", .text), ("format", .text)])]

/-- Settings in the shape of a settings file. -/
def toDatum (s : Settings) : Toml.Datum :=
  .record
    [("library",
        .record
          [("path", .text s.library.path),
            ("symbol_prefix", .text s.library.symbolPrefix),
            ("transport", .text s.library.transport)]),
      ("storage", .record [("path", .text s.storage)]),
      ("input",
        .record
          [("density", .real s.input.density),
            ("touch_slop", .real s.input.touchSlop),
            ("long_press_timeout_ms", .integer s.input.longPressMs),
            ("min_fling_velocity", .real s.input.minFlingVelocity),
            ("max_fling_velocity", .real s.input.maxFlingVelocity),
            ("max_fling_distance", .integer s.input.maxFlingDistance)]),
      ("log", .record [("level", .text s.log.level), ("format", .text s.log.format)])]

/-- The settings in a datum of that shape. -/
def ofDatum (d : Toml.Datum) : Settings where
  library :=
    { path := d.textAt ["library", "path"]
      symbolPrefix := d.textAt ["library", "symbol_prefix"]
      transport := d.textAt ["library", "transport"] }
  storage := d.textAt ["storage", "path"]
  input :=
    { density := d.realAt ["input", "density"]
      touchSlop := d.realAt ["input", "touch_slop"]
      longPressMs := d.integerAt ["input", "long_press_timeout_ms"]
      minFlingVelocity := d.realAt ["input", "min_fling_velocity"]
      maxFlingVelocity := d.realAt ["input", "max_fling_velocity"]
      maxFlingDistance := d.integerAt ["input", "max_fling_distance"] }
  log := { level := d.textAt ["log", "level"], format := d.textAt ["log", "format"] }

/-- Replaces values that make no sense by the default ones: an empty beginning of
names, and a density or a fling distance that is not positive. -/
def sanitize (s : Settings) : Settings :=
  let d := default
  { s with
    library :=
      { s.library with
        symbolPrefix :=
          if s.library.symbolPrefix = "" then d.library.symbolPrefix else s.library.symbolPrefix }
    input :=
      { s.input with
        density := if s.input.density ≤ 0 then d.input.density else s.input.density
        maxFlingDistance :=
          if s.input.maxFlingDistance ≤ 0 then d.input.maxFlingDistance
          else s.input.maxFlingDistance } }

end Settings

end SurfaceHost
