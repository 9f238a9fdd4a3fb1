import EmbeddedSql.Connection.Parameter
import EmbeddedSql.Query.Execution
import EmbeddedSql.Session.Basic

/-! What a session is asked, and what it answers. -/

namespace EmbeddedSql.Session

inductive Encoding where
  | ofUtf16 (units : Utf16.Units)
  | ofUtf16Terminated (units : Utf16.Units)
  | ofUtf8Terminated (bytes : Bytes)
deriving DecidableEq, Repr

def Encoding.encode (encoding : Encoding) (growth : Scratch.Growth) (pool : Scratch.Pool) :
    Scratch.Encoded × Scratch.Pool :=
  match encoding with
  | .ofUtf16 units => Scratch.Encoded.ofUtf16 growth units pool
  | .ofUtf16Terminated units => Scratch.Encoded.ofUtf16Terminated growth units pool
  | .ofUtf8Terminated bytes => Scratch.Encoded.ofUtf8Terminated growth bytes pool

/-! ## Requests -/

/-- What can be asked of a scratch pool and its buffers. A configuration is given
as JSON text. -/
inductive PoolRequest where
  | create (pool : String) (config : Option (List Char))
  | share (pool source : String)
  | available (pool : String)
  | rent (pool buffer : String) (minimum : Nat)
  | append (buffer : String) (bytes : Bytes)
  | encode (pool buffer : String) (encoding : Encoding)
  | contents (buffer : String)
  | release (buffer : String)
deriving DecidableEq, Repr

inductive ConnectionRequest where
  | connect (path : Option String) (config : Option (List Char)) (pool : Option String)
  | state
  | ensureOpen
  | dispose
  | drop
  | changes
  | pendingStatements
  | lastInsertRowid
  | executeNonQuery (sql : Text)
  | executeReader (reader : String) (sql : Text)
  | createCommand (command : String) (sql : Text)
deriving DecidableEq, Repr

inductive CommandRequest where
  | sql
  | executeNonQuery
  | executeReader (reader : String)
  | finalize
  | drop
  | parameterCount
  | clear
  | indexOf (name : Text)
  | nameOf (index : Int32)
  | bind (parameter : Parameter) (argument : Argument)
  | bindText (parameter : Parameter) (text : Text)
deriving DecidableEq, Repr

inductive ReaderRequest where
  | read
  | cursor
  | columnCount
  | names
  | row (withBytes : Bool)
  | name (column : Nat)
  | nameUtf16 (column : Nat)
  | storageClass (column : Nat)
  | isNull (column : Nat)
  | int32 (column : Nat)
  | int64 (column : Nat)
  | real (column : Nat)
  | bytes (column : Nat)
  | string (column : Nat)
  | utf16 (column : Nat)
  | copyBytes (column : Nat) (destination : List UInt8)
  | copyUtf8 (column : Nat) (destination : List UInt8)
  | copyUtf16 (column : Nat) (destination : List UInt16)
  | dispose
deriving DecidableEq, Repr

inductive QueryRequest where
  | execute (connection : String) (sql : Text) (values : List Json)
  | fetchAll (connection : String) (sql : Text) (values : List Json)
  | fetchOne (connection : String) (sql : Text) (values : List Json)
  | executeTransaction (connection : String) (statements : List (Text × List Json))
  | bindValue (command : String) (index : Int32) (value : Json)
  | bindValues (command : String) (values : List Json)
  | columnJson (reader : String) (column : Nat)
  | decodeRow (reader : String)
deriving Repr

inductive Request where
  | pool (request : PoolRequest)
  | connection (name : String) (request : ConnectionRequest)
  | command (name : String) (request : CommandRequest)
  | reader (name : String) (request : ReaderRequest)
  | query (request : QueryRequest)
deriving Repr

/-! ## Answers -/

structure ColumnReport where
  storageClass : StorageClass
  isNull : Bool
  int32 : Int32
  int64 : Int64
  real : Binary64
  bytes : Option Bytes
  string : String
  utf16 : Utf16.Units
deriving DecidableEq, Repr

inductive Answer where
  | nothing
  | boolean (value : Bool)
  | number (value : Int)
  | int64 (value : Int64)
  | real (value : Binary64)
  | bytes (bytes : Bytes)
  | utf16 (units : Utf16.Units)
  | string (value : Option String)
  | strings (values : List String)
  | storageClass (value : StorageClass)
  | cursor (cursor : Cursor)
  | poolConfig (config : Scratch.PoolConfig)
  | rented (length : Nat) (enough : Bool)
  | encoded (text : Scratch.Encoded)
  | connection (connection : Connection)
  | row (columns : List ColumnReport)
  | copiedBytes (written : Option Nat) (destination : List UInt8)
  | copiedUtf16 (written : Option Nat) (destination : List UInt16)
deriving DecidableEq, Repr

inductive QueryAnswer where
  | nothing
  | written (result : Query.WriteResult)
  | writtenEach (results : List Query.WriteResult)
  | row (row : Option Query.Row)
  | rows (rows : List Query.Row)
  | value (value : Json)
deriving Repr

inductive Response where
  | plain (result : Except (Refusal Error) Answer)
  | query (result : Except (Refusal Query.Error) QueryAnswer)

end EmbeddedSql.Session
