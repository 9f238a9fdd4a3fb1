import EmbeddedSql.Connection.Config
import EmbeddedSql.Error
import EmbeddedSql.Text.Utf8

/-! Where databases are kept: what the path that a database is opened with stands for.
Paths that start with `file:` are URIs. -/

namespace EmbeddedSql.Storage

inductive Place where
  /-- In memory or in a file that nobody else can name; gone once it is closed. -/
  | unnamed
  | file (name : Bytes)
  | sharedMemory (name : Bytes)
  | directory
  | unreachable
deriving DecidableEq, Repr

structure Location where
  place : Place
  access : Access
deriving DecidableEq, Repr

structure Refusal where
  code : Int
  message : Bytes
deriving DecidableEq, Repr

namespace Refusal

def ofText (code : Int) (message : String) : Refusal where
  code := code
  message := Utf8.ofString message

def naming (code : Int) (before : String) (name : Bytes) : Refusal where
  code := code
  message := Bytes.ofAscii before ++ name

def cannotOpen : Refusal := ofText Status.cannotOpen "unable to open database file"

end Refusal

namespace Location

/-! ## Parts of a URI -/

private def slash : UInt8 := 0x2F
private def percent : UInt8 := 0x25

/-- Replaces what is written with percent signs. A zero byte ends the text. -/
private def decode : Bytes → Bytes
  | [] => []
  | byte :: high :: low :: rest =>
      if byte = percent && Bytes.isHexDigit high && Bytes.isHexDigit low then
        let value := Bytes.hexDigitValue high * 16 + Bytes.hexDigitValue low
        if value = 0 then [] else value.toUInt8 :: decode rest
      else byte :: decode (high :: low :: rest)
  | byte :: rest => byte :: decode rest

example : decode (Bytes.ofAscii "x%20y%zz%00.db") = Bytes.ofAscii "x y%zz" := by decide +kernel

private def splitFirst (separator : UInt8) (bytes : Bytes) : Bytes × Bytes :=
  (bytes.takeWhile (· ≠ separator), (bytes.dropWhile (· ≠ separator)).drop 1)

private def splitAll (separator : UInt8) (bytes : Bytes) : List Bytes :=
  bytes.foldr (fun byte parts =>
    if byte = separator then [] :: parts
    else
      match parts with
      | part :: rest => (byte :: part) :: rest
      | [] => [[byte]]) [[]]

private def uriParameters (query : Bytes) : List (Bytes × Bytes) :=
  (splitAll 0x26 query).filterMap fun part =>
    let (name, value) := splitFirst 0x3D part
    if name.isEmpty then none else some (decode name, decode value)

/-- The text after the authority, which has to be the local host or nothing. -/
private def afterAuthority (bytes : Bytes) : Except Refusal Bytes :=
  match bytes with
  | 0x2F :: 0x2F :: rest =>
      let authority := rest.takeWhile (· ≠ slash)
      if authority.isEmpty || authority = Bytes.ofAscii "localhost" then
        .ok (rest.dropWhile (· ≠ slash))
      else .error (.naming Status.error "invalid uri authority: " authority)
  | bytes => .ok bytes

/-! ## Parameters -/

private structure Options where
  access : Access
  inMemory : Bool := false
  shared : Bool := false

private def rank : Access → Nat
  | .readOnly => 1
  | .readWrite => 2
  | .create => 3

private def applyMode (options : Options) (mode : Bytes) : Except Refusal Options :=
  let restrict (access : Access) : Except Refusal Options :=
    if rank options.access < rank access then
      .error (.naming Status.permission "access mode not allowed: " mode)
    else .ok { options with access, inMemory := false }
  if mode = Bytes.ofAscii "ro" then restrict .readOnly
  else if mode = Bytes.ofAscii "rw" then restrict .readWrite
  else if mode = Bytes.ofAscii "rwc" then restrict .create
  else if mode = Bytes.ofAscii "memory" then
    .ok { options with access := .create, inMemory := true }
  else .error (.naming Status.error "no such access mode: " mode)

private def applyCache (options : Options) (mode : Bytes) : Except Refusal Options :=
  if mode = Bytes.ofAscii "shared" then .ok { options with shared := true }
  else if mode = Bytes.ofAscii "private" then .ok { options with shared := false }
  else .error (.naming Status.error "no such cache mode: " mode)

private def applyParameter (options : Options) (parameter : Bytes × Bytes) :
    Except Refusal Options :=
  if parameter.1 = Bytes.ofAscii "mode" then applyMode options parameter.2
  else if parameter.1 = Bytes.ofAscii "cache" then applyCache options parameter.2
  else .ok options

private def fileSystems : List Bytes :=
  ["unix", "unix-none", "unix-dotfile", "unix-excl"].map Bytes.ofAscii

private def checkFileSystem (parameters : List (Bytes × Bytes)) : Except Refusal Unit :=
  match (parameters.filter fun (name, _) => name = Bytes.ofAscii "vfs").getLast? with
  | some (_, name) =>
      if fileSystems.contains name then .ok ()
      else .error (.naming Status.error "no such vfs: " name)
  | none => .ok ()

/-! ## Files -/

/-- The names on the way from the working directory, the last one first. A step up takes the
last name away, whether or not there is a directory of that name; steps above the working
directory stay. -/
private def follow (names : List Bytes) (part : Bytes) : List Bytes :=
  if part.isEmpty || part = Bytes.ofAscii "." then names
  else if part = Bytes.ofAscii ".." then
    match names with
    | [] => [part]
    | name :: rest => if name = part then part :: names else rest
  else part :: names

private def route (path : Bytes) : List Bytes :=
  (splitAll slash path).foldl follow []

example : route (Bytes.ofAscii "./x/../y.db") = [Bytes.ofAscii "y.db"] := by decide +kernel

private def nameLimit : Nat := 255

private def ofFileName (path : Bytes) : Place :=
  if path.isEmpty || path = Bytes.ofAscii ":memory:" then .unnamed
  else if path.head? = some slash then .unreachable
  else
    match route path with
    | [] => .directory
    | name :: directories =>
        if name = Bytes.ofAscii ".." then .directory
        else if directories.isEmpty && name.length ≤ nameLimit then .file name
        else .unreachable

private def ofUri (rest : Bytes) (access : Access) : Except Refusal Location := do
  let (path, query) := splitFirst 0x3F ((← afterAuthority rest).takeWhile (· ≠ 0x23))
  let name := decode path
  let parameters := uriParameters query
  let options ← parameters.foldlM applyParameter { access }
  checkFileSystem parameters
  let place :=
    if options.inMemory then
      if options.shared && !name.isEmpty then .sharedMemory name else .unnamed
    else ofFileName name
  return { place, access := options.access }

def ofPath (path : Bytes) (mode : OpenMode) : Except Refusal Location :=
  match path with
  | 0x66 :: 0x69 :: 0x6C :: 0x65 :: 0x3A :: rest => ofUri rest mode.access
  | path => .ok { place := ofFileName path, access := mode.access }

end Location

end EmbeddedSql.Storage
