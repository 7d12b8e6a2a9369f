import Detour.Http.Response
import Detour.Text.Digit

/-!
# Serving files

A tree of files is served for `GET` and `HEAD`. The path of an address is decoded and may not leave
the tree. A directory is answered by its `index.html`, or by a redirect to its path with a slash.
-/

namespace Detour

/-- Files by the names on their paths. -/
structure FileTree where
  files : List (List String × String)
deriving Repr, DecidableEq, Inhabited

namespace FileTree

/-- The names on a path. -/
def segments (path : String) : List String := (path.splitOn "/").filter fun s => !s.isEmpty

/-- The tree of files given by their paths. -/
def ofPaths (files : List (String × String)) : FileTree :=
  ⟨files.map fun f => (segments f.1, f.2)⟩

def file? (t : FileTree) (path : List String) : Option String :=
  (t.files.find? fun f => f.1 = path).map Prod.snd

/-- A directory is the root or holds some file, at whatever depth. -/
def isDirectory (t : FileTree) (path : List String) : Bool :=
  path.isEmpty || t.files.any fun f => path.isPrefixOf f.1 && path.length < f.1.length

/-! ## Paths of addresses -/

/-- The value of a byte that is a hexadecimal digit. -/
def hexValue? (b : UInt8) : Option Nat := digitValue? 16 (Char.ofNat b.toNat)

/-- Bytes with each percent sign and its two digits replaced by the byte that they write; a percent
sign without them stands for itself. -/
def decodeBytes : List UInt8 → List UInt8
  | [] => []
  | 37 :: a :: b :: rest =>
    match hexValue? a, hexValue? b with
    | some x, some y => UInt8.ofNat (x * 16 + y) :: decodeBytes rest
    | _, _ => 37 :: decodeBytes (a :: b :: rest)
  | b :: rest => b :: decodeBytes rest

/-- The decoded text, if it is one. -/
def decode? (s : String) : Option String :=
  String.fromUTF8? ⟨(decodeBytes s.toUTF8.toList).toArray⟩

/-- The names on the path of an address. A path that starts at a root of its own or goes up is
refused. -/
def resolve? (path : String) : Option (List String) :=
  match decode? (String.ofList (path.toList.dropWhile (· = '/'))) with
  | none => none
  | some decoded =>
    let names := (segments decoded).filter fun s => s ≠ "."
    if decoded.startsWith "/" || names.contains ".." then none else some names

/-! ## Responses -/

/-- The text after the last point of a name, if something stands before that. -/
def extension? (name : String) : Option String :=
  match (name.splitOn ".").reverse with
  | ext :: stem :: more => if more.isEmpty && stem.isEmpty then none else some ext
  | _ => none

/-- The media type of a file. -/
def contentType (path : List String) : String :=
  match ((path.getLast?.bind extension?).map asciiLower).getD "" with
  | "json" => "application/json"
  | "map" => "application/json"
  | "har" => "application/json"
  | "html" => "text/html"
  | "htm" => "text/html"
  | "txt" => "text/plain"
  | "css" => "text/css"
  | "js" => "text/javascript"
  | "svg" => "image/svg+xml"
  | "png" => "image/png"
  | _ => "application/octet-stream"

/-- The answer that holds the file at a path. -/
def sendFile (t : FileTree) (path : List String) : Response :=
  match t.file? path with
  | some content => ⟨200, [("content-type", contentType path)], content⟩
  | none => .bare 404

/-- The address of a directory with a slash after its path. An authority alone has no path. -/
def withSlash? (uri : Uri) : Option Uri :=
  match uri with
  | .authority _ => none
  | .origin t => some (.origin { t with path := uri.path ++ "/" })
  | .absolute scheme name t => some (.absolute scheme name { t with path := t.fullPath ++ "/" })

/-- The answer to a request. -/
def respond (t : FileTree) (r : Request) : Response :=
  if r.method ≠ "GET" && r.method ≠ "HEAD" then .methodNotAllowed ["GET", "HEAD"]
  else
    match resolve? r.uri.path with
    | none => .bare 404
    | some path =>
      if !t.isDirectory path then t.sendFile path
      else if r.uri.path.endsWith "/" then t.sendFile (path ++ ["index.html"])
      else
        match withSlash? r.uri with
        | some uri => .redirect 307 uri.display
        | none => .bare 500

end FileTree

end Detour
