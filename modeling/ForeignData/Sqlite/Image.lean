import ForeignData.Sqlite.Connection
import ForeignData.Sqlite.Schema

/-!
# Images of databases

A database file is cut into pages of one size. The first begins with a header, behind which stands
the root of the catalog. A page of a table either holds rows or leads to further pages of the table;
a row that is too long for its page goes on in a chain of others. Only the catalog is read: the
tables of the database are given without their rows.
-/

namespace ForeignData.Sqlite

/-! ### Numbers -/

/-- The number that bytes write, the highest of them first. -/
def bigEndian (bytes : List UInt8) : Nat :=
  bytes.foldl (fun n b => 256 * n + b.toNat) 0

def numberAt (bytes : List UInt8) (place count : Nat) : Nat :=
  bigEndian ((bytes.drop place).take count)

/-- The number that bytes write if the highest bit tells its sign. -/
def signedBigEndian (bytes : List UInt8) : Int :=
  let n := bigEndian bytes
  let size := twoPow (8 * bytes.length)
  if 2 * n < size then n else n - size

/-- Read a number onto the bits already read: seven bits of a byte whose highest bit tells whether
there are more, and all bits of the byte behind the last one that may have that bit. -/
def takeVarintOnto : Nat → Nat → List UInt8 → Option (Nat × List UInt8)
  | _, _, [] => none
  | 0, n, b :: rest => some (256 * n + b.toNat, rest)
  | more + 1, n, b :: rest =>
    let n := 128 * n + b.toNat % 128
    if b < 128 then some (n, rest) else takeVarintOnto more n rest

/-- Read a number of one byte to nine. -/
def takeVarint? (bytes : List UInt8) : Option (Nat × List UInt8) :=
  takeVarintOnto 8 0 bytes

/-! ### Records -/

/-- The number of bytes of a value, by its type. -/
def contentSize (type : Nat) : Nat :=
  if 12 ≤ type then (type - 12) / 2 else [0, 1, 2, 3, 4, 6, 8, 8][type]?.getD 0

def Cell.ofContent (type : Nat) (content : List UInt8) : Cell :=
  if 12 ≤ type then
    if type % 2 = 0 then .blob ⟨content.toArray⟩ else .text ⟨content.toArray⟩
  else
    match type with
    | 0 | 10 | 11 => .null
    | 7 => .real ⟨UInt64.ofNat (bigEndian content)⟩
    | 8 => .integer 0
    | 9 => .integer 1
    | _ => .integer (Int64.ofInt (signedBigEndian content))

def readTypes : Nat → List UInt8 → List Nat
  | 0, _ => []
  | fuel + 1, bytes =>
    match takeVarint? bytes with
    | none => []
    | some (type, rest) => type :: readTypes fuel rest

/-- The values of types, one behind the other. -/
def readContents : List Nat → List UInt8 → List Cell
  | [], _ => []
  | type :: types, bytes =>
    let size := contentSize type
    .ofContent type (bytes.take size) :: readContents types (bytes.drop size)

/-- The values of a record. Its header begins with its own length. -/
def readRecord? (bytes : List UInt8) : Option (List Cell) := do
  let (size, _) ← takeVarint? bytes
  let header := bytes.take size
  let (_, types) ← takeVarint? header
  return readContents (readTypes header.length types) (bytes.drop size)

/-! ### Pages -/

/-- A database file. -/
structure Image where
  bytes : ByteArray
  pageSize : Nat
  /-- The part of a page, from its beginning, that has a content. -/
  usable : Nat

namespace Image

/-- The bytes of a page. The first page has the number one. -/
def page (i : Image) (number : Nat) : List UInt8 :=
  (i.bytes.extract ((number - 1) * i.pageSize) (number * i.pageSize)).data.toList

/-- The number of bytes of a row that stand in its own page. -/
def keptSize (i : Image) (size : Nat) : Nat :=
  let most := i.usable - 35
  if size ≤ most then
    size
  else
    let least := (i.usable - 12) * 32 / 255 - 23
    let kept := least + (size - least) % (i.usable - 4)
    if kept ≤ most then kept else least

/-- The bytes in a chain of pages, which begins with the number of the next one in each. -/
def chained (i : Image) : Nat → Nat → List UInt8
  | 0, _ => []
  | pages + 1, number =>
    let content := (i.page number).take i.usable
    let next := numberAt content 0 4
    content.drop 4 ++ if next = 0 then [] else i.chained pages next

/-- The row that begins with its length and its rowid. -/
def row? (i : Image) (bytes : List UInt8) : Option (List Cell) := do
  let (size, rest) ← takeVarint? bytes
  let (_, rest) ← takeVarint? rest
  let kept := i.keptSize size
  if size ≤ kept then
    readRecord? (rest.take size)
  else
    let others := i.chained (size / (i.usable - 4) + 1) (numberAt rest kept 4)
    readRecord? ((rest.take kept ++ others).take size)

/-- The places of the items of a page, each in two bytes. -/
def places (bytes : List UInt8) (count : Nat) : List Nat :=
  (List.range count).map fun number => numberAt bytes (2 * number) 2

def headerSize : Nat := 100

/-- The first byte of a page that holds rows. -/
def leafMark : Nat := 13

/-- The first byte of a page that leads to others. -/
def branchMark : Nat := 5

/-- The rows of a table below one of its pages, for a table of no more than a number of levels. A
page begins with its mark, has the number of its items in the fourth byte and the fifth, and then
their places; a branch tells its last child in front of these. -/
def rows? (i : Image) : Nat → Nat → Option (List (List Cell))
  | 0, _ => none
  | levels + 1, number =>
    let content := i.page number
    let top := if number = 1 then content.drop headerSize else content
    let mark := numberAt top 0 1
    let count := numberAt top 3 2
    if mark = leafMark then
      (places (top.drop 8) count).mapM fun place => i.row? (content.drop place)
    else if mark = branchMark then do
      let children := (places (top.drop 12) count).map fun place => numberAt content place 4
      let rows ← (children ++ [numberAt top 8 4]).mapM (i.rows? levels)
      return rows.flatten
    else
      none

/-- The greatest number of levels of a table. -/
def maxLevels : Nat := 20

def catalog? (i : Image) : Option (List (List Cell)) :=
  i.rows? maxLevels 1

/-- The bytes that a database file begins with. -/
def mark : List UInt8 :=
  (bytesOfText "SQLite format 3").data.toList ++ [0]

def pageSizes : List Nat :=
  [512, 1024, 2048, 4096, 8192, 16384, 32768, 65536]

/-- The least part of a page that has a content. -/
def minUsable : Nat := 480

/-- Read the header of a file. The largest size of a page is written as one. Text has to be kept in
UTF-8, and the way of reading has to be one of the two that are known. -/
def ofBytes? (bytes : ByteArray) : Option Image :=
  let header := (bytes.extract 0 headerSize).data.toList
  let written := numberAt header 16 2
  let pageSize := if written = 1 then 65536 else written
  let usable := pageSize - numberAt header 20 1
  let isKnown := numberAt header 19 1 ≤ 2 ∧ numberAt header 56 4 ≤ 1
  if header.take mark.length = mark ∧ pageSize ∈ pageSizes ∧ minUsable ≤ usable ∧ isKnown then
    some { bytes, pageSize, usable }
  else
    none

end Image

/-- The database in a file, without the rows of its tables. -/
def Database.ofBytes? (bytes : ByteArray) : Option Database := do
  let image ← Image.ofBytes? bytes
  return .ofCatalog (← image.catalog?)

def FileContent.ofBytes (bytes : ByteArray) : FileContent :=
  match Database.ofBytes? bytes with
  | some db => .database db
  | none => .other bytes.size

end ForeignData.Sqlite
