/-
The client's documents and the parameters and results of the document calls:
`document.h`, with the `Filter` of `filter.h` that the parameters point to.
-/
import VectorDb.Types.Basic

namespace VectorDb

/-- The `std::variant` of a field, with its alternatives in the order of the header. -/
inductive FieldValue where
  | str (s : Str)
  | u64 (n : UInt64)
  | double (d : Double)
  | strArr (l : List Str)
deriving DecidableEq, Repr

/-- A field of a document.  The default value is the first alternative, an empty string. -/
structure Field where
  oneofVal : FieldValue := .str []
deriving DecidableEq, Repr

namespace Field

def hasValStr (f : Field) : Bool :=
  match f.oneofVal with
  | .str _ => true
  | _ => false

def hasValU64 (f : Field) : Bool :=
  match f.oneofVal with
  | .u64 _ => true
  | _ => false

def hasValDouble (f : Field) : Bool :=
  match f.oneofVal with
  | .double _ => true
  | _ => false

def hasValStrArr (f : Field) : Bool :=
  match f.oneofVal with
  | .strArr _ => true
  | _ => false

def getValStr (f : Field) : Str :=
  match f.oneofVal with
  | .str s => s
  | _ => []

def getValU64 (f : Field) : UInt64 :=
  match f.oneofVal with
  | .u64 n => n
  | _ => 0

def getValDouble (f : Field) : Double :=
  match f.oneofVal with
  | .double d => d
  | _ => .zero

def getValStrArr (f : Field) : List Str :=
  match f.oneofVal with
  | .strArr l => l
  | _ => []

def setValStr (val : Str) (f : Field) : Field := { f with oneofVal := .str val }

def setValU64 (val : UInt64) (f : Field) : Field := { f with oneofVal := .u64 val }

def setValDouble (val : Double) (f : Field) : Field := { f with oneofVal := .double val }

def setValStrArr (val : List Str) (f : Field) : Field := { f with oneofVal := .strArr val }

end Field

/-- A document; `fields` is an unordered map, so its order of iteration is arbitrary. -/
structure Document where
  id : Str := []
  vector : List Single := []
  fields : Map Str Field := ∅
  score : Single := .zero
deriving DecidableEq

/-- A filter.  Its mutex is held for the whole of each call that writes `cond`, so a call
is a single step from one value of `cond` to the next. -/
structure Filter where
  cond : Str := []
deriving DecidableEq, Repr

structure UpsertDocumentParams where
  buildIndex : Bool
deriving DecidableEq, Repr

structure QueryDocumentParams where
  filter : Option Filter
  retrieveVector : Bool
  outputFields : List Str
  offset : Int64
  limit : Int64
deriving DecidableEq, Repr

structure SearchParms where
  nprobe : Int32 := 0
  ef : Int32 := 0
  radius : Single := .zero
deriving DecidableEq, Repr

structure SearchDocumentParams where
  filter : Option Filter
  searchParams : Option SearchParms
  retrieveVector : Bool
  outputFields : List Str
  limit : Int64
deriving DecidableEq, Repr

structure UpdateDocumentParams where
  queryIds : List Str
  queryFilter : Option Filter
  updateVector : List Single
  updateFields : Map Str Field
deriving DecidableEq

structure DeleteDocumentParams where
  documentIds : List Str
  filter : Option Filter
  limit : Int64
deriving DecidableEq, Repr

/-! ### The results of the calls -/

structure UpsertDocumentResult where
  success : Bool
  message : Str
  affectedCount : Int32 := 0
deriving DecidableEq, Repr

structure QueryDocumentResult where
  success : Bool
  message : Str
  documents : List Document
  total : UInt64
deriving DecidableEq

structure SearchDocumentResult where
  success : Bool
  message : Str
  warning : Str
  documents : List (List Document)
deriving DecidableEq

structure UpdateDocumentResult where
  success : Bool
  message : Str
  affectedCount : Int32 := 0
deriving DecidableEq, Repr

structure DeleteDocumentResult where
  success : Bool
  message : Str
  affectedCount : Int32 := 0
deriving DecidableEq, Repr

structure CountResult where
  success : Bool
  message : Str
  count : UInt64
deriving DecidableEq, Repr

end VectorDb
