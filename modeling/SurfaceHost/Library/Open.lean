import SurfaceHost.Files.World
import SurfaceHost.Library.Basic
import SurfaceHost.Settings.Basic

/-!
# Opening engine libraries

Where an engine library is looked for, which entry points it has, and what must be
there for it to be opened.
-/

namespace SurfaceHost

namespace Library

/-! ### Tokens in paths

The path of a library may hold tokens, each a dollar sign and a name, with or without
braces around the name.  `expand` puts what they stand for in their place; any other
dollar sign stands for itself.
-/

/-- What a token stands for. -/
inductive PathToken where
  /-- The directory of the running program. -/
  | origin
  /-- The directory for libraries, below the root or below `/usr`. -/
  | lib
  /-- The kind of processor, which is not known. -/
  | platform
  deriving DecidableEq, Repr

namespace PathToken

/-- All tokens. -/
def all : List PathToken := [.origin, .lib, .platform]

/-- The name behind the dollar sign. -/
def name : PathToken → String
  | .origin => "ORIGIN"
  | .lib => "LIB"
  | .platform => "PLATFORM"

/-- What a token stands for when the program is in `directory`. -/
def value? (directory : String) : PathToken → Option String
  | .origin => some directory
  | .lib => some "lib/x86_64-linux-gnu"
  | .platform => none

/-- Whether a name goes on with a character. -/
def isNameChar (c : Char) : Bool :=
  c.isAlphanum || c == '_'

/-- How many characters the token takes at the start of `cs`, if it is there: a whole
name, or one between braces. -/
def length? (t : PathToken) (cs : List Char) : Option Nat :=
  let name := t.name.toList
  match cs with
  | '{' :: cs => if (name ++ ['}']).isPrefixOf cs then some (name.length + 2) else none
  | cs =>
    if name.isPrefixOf cs && !(cs.drop name.length).head?.any isNameChar then some name.length
    else none

/-- The token at the start of `cs` and how many characters it takes. -/
def at? (cs : List Char) : Option (PathToken × Nat) :=
  all.findSome? fun t => (t.length? cs).map (t, ·)

end PathToken

/-- The text behind the first `skip` characters, with all tokens expanded. -/
def expandFrom? (directory : String) : (skip : Nat) → List Char → Option (List Char)
  | _, [] => some []
  | skip + 1, _ :: rest => expandFrom? directory skip rest
  | 0, '$' :: rest =>
    match PathToken.at? rest with
    | some (t, n) => do
      let value ← t.value? directory
      (value.toList ++ ·) <$> expandFrom? directory n rest
    | none => ('$' :: ·) <$> expandFrom? directory 0 rest
  | 0, c :: rest => (c :: ·) <$> expandFrom? directory 0 rest

/-- A path with all tokens expanded, if they all stand for something. -/
def expand? (directory path : String) : Option String :=
  String.ofList <$> expandFrom? directory 0 path.toList

end Library

/-! ### Probing and opening -/

/-- The entry points that a library has and those that it lacks. -/
structure Report where
  path : String
  resolved : List String
  missing : List String
  deriving DecidableEq, Repr

namespace Report

/-- Whether nothing required is missing. -/
def isComplete (r : Report) : Bool :=
  !r.missing.any EntryPoint.isRequiredName

end Report

namespace Library

/-- The beginning of exported names, unless another one is asked for. -/
def defaultSymbolPrefix : String := "glview_"

/-- The file name of an engine library. -/
def fileName : String := "libglview_engine.so"

/-- Where to look for the engine library when nobody says where it is. -/
def searchPaths (w : World) : List String :=
  let directory := Path.directory w.executable
  [fileName,
    Path.join ["engine", "target", "release", fileName],
    Path.join ["engine", "target", "debug", fileName],
    Path.join [directory, fileName],
    Path.join [directory, "..", "lib", fileName]]

/-- The path of the engine library: the one asked for, else the one that the
environment names, else the first one found, else the bare name for the system's own
search. -/
def resolvePath (w : World) (explicit : String) : String :=
  if explicit ≠ "" then explicit
  else if w.libraryPath ≠ "" then w.libraryPath
  else
    match (searchPaths w).find? w.has with
    | some path => Path.absolute w.cwd path
    | none => fileName

/-- Text as far as a library can see it: up to the first zero. -/
def cut (s : String) : String :=
  String.ofList (s.toList.takeWhile (· ≠ '\x00'))

/-- The bare names for which the system's search finds a library; none of these has an
entry point. -/
def systemLibraries : List String :=
  ["ld-linux-x86-64.so.2", "libc.so.6", "libdl.so.2", "libm.so.6", "libpthread.so.0",
    "libresolv.so.2", "librt.so.1", "libutil.so.1"]

/-- The path of the file that the system loads for a path with a slash. -/
def filePath? (w : World) (path : String) : Option String :=
  expand? (Path.directory w.executable) (cut path)

/-- The library that the system loads for a path.  No path at all means the running
program, which exports nothing, and a bare name is searched elsewhere. -/
def load? (w : World) (path : String) : Option Image :=
  let name := cut path
  if name = "" then some ⟨[]⟩
  else if name.contains '/' then
    match w.disk.lookup w.cwd <$> filePath? w path with
    | some (.ok (.library image)) => some image
    | _ => none
  else if systemLibraries.contains name then some ⟨[]⟩
  else none

/-- Why a library cannot be used. -/
inductive OpenError where
  | notLoadable (path : String)
  | missingSymbols (names : List String) (path : String)
  deriving DecidableEq, Repr

/-- The wording of an `OpenError`. -/
def OpenError.message : OpenError → String
  | .notLoadable path => "failed to load engine library from " ++ path
  | .missingSymbols names path =>
    "ffi: missing required symbol: " ++ ", ".intercalate names ++ " in " ++ path

/-- Which library is wanted and how to talk to it. -/
structure Options where
  path : String
  symbolPrefix : String
  transport : Transport := .direct

/-- The beginning of exported names. -/
def Options.symbols (o : Options) : String :=
  if o.symbolPrefix = "" then defaultSymbolPrefix else o.symbolPrefix

/-- What is logged before a library is loaded. -/
def loadingRecord (path : String) : Log.Record :=
  .debug "ffi: loading engine library"
    [("path", .text path), ("goos", .text "linux"), ("goarch", .text "amd64")]

/-- The entry points of an image, found by name. -/
def entryPoints (o : Options) (image : Image) : List EntryPoint :=
  EntryPoint.all.filter fun e => image.exports.contains (cut (o.symbols ++ e.name))

/-- The entry point whose function is found for all names, if a zero cuts them off. -/
def sharedEntryPoint (o : Options) : Option EntryPoint :=
  if o.symbols.contains '\x00' then EntryPoint.ending? (cut o.symbols) else none

/-- The report on an image. -/
def reportOn (o : Options) (path : String) (image : Image) : Report where
  path
  resolved := (entryPoints o image).map EntryPoint.name
  missing := (EntryPoint.all.filter (!(entryPoints o image).contains ·)).map EntryPoint.name

/-- Loads a library and reports on it. -/
def probe (w : World) (o : Options) : List Log.Record × Except OpenError Report :=
  let path := resolvePath w o.path
  ([loadingRecord path],
    match load? w path with
    | some image => .ok (reportOn o path image)
    | none => .error (.notLoadable path))

/-- The names of what must be there and is not: whatever is required, and for batches
the function that executes them. -/
def lacking (o : Options) (bound : List EntryPoint) : List String :=
  let required := EntryPoint.all.filter fun e => e.isRequired && !bound.contains e
  let forBatches :=
    if o.transport = .batch ∧ !bound.contains .executeBatch then [EntryPoint.executeBatch] else []
  (required ++ forBatches).map fun e => o.symbols ++ e.name

/-- Loads a library and opens it. -/
def openWith (w : World) (o : Options) :
    List Log.Record × Except OpenError (String × Library) :=
  let path := resolvePath w o.path
  match load? w path with
  | none => ([loadingRecord path], .error (.notLoadable path))
  | some image =>
    let bound := entryPoints o image
    match lacking o bound with
    | [] =>
      ([loadingRecord path,
          .info "ffi: engine library loaded"
            [("path", .text path),
              ("transport", .choice o.transport.name o.transport.code),
              ("symbols", .number (Int64.ofNat bound.length))]],
        .ok (path, { transport := o.transport, bound, shared := sharedEntryPoint o }))
    | names => ([loadingRecord path], .error (.missingSymbols names path))

/-! ### Engines from settings -/

/-- Why there is no engine. -/
inductive EngineError where
  | transport (e : Transport.UnknownTransport)
  | library (e : OpenError)
  deriving DecidableEq, Repr

/-- The wording of an `EngineError`. -/
def EngineError.message : EngineError → String
  | .transport e => e.message
  | .library e => "failed to open engine: " ++ e.message

/-- Opens the library that the settings describe. -/
def openEngine (w : World) (s : LibrarySettings) :
    List Log.Record × Except EngineError (String × Library) :=
  match Transport.parse s.transport with
  | .error e => ([], .error (.transport e))
  | .ok transport =>
    let (records, opened) :=
      openWith w { path := s.path, symbolPrefix := s.symbolPrefix, transport }
    (records, opened.mapError .library)

end Library

end SurfaceHost
