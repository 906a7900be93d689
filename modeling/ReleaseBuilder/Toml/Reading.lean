/-
# Reading a document

The expressions of a document fall into sections: the assignments before the first
header, and each header with the assignments behind it. The first make the document's own
entries; every other section makes a table, which is then put where its header says.
-/

import ReleaseBuilder.Toml.Expression

namespace ReleaseBuilder.Toml

/-- A header with the assignments behind it. -/
structure Section where
  header : Header
  assignments : List Assignment

/-- The assignments before the first header, and the sections. -/
def sections : List Expression → List Assignment × List Section
  | [] => ([], [])
  | .assignment a :: rest =>
    let (own, later) := sections rest
    (a :: own, later)
  | .header h :: rest =>
    let (own, later) := sections rest
    ([], ⟨h, own⟩ :: later)

namespace Section

/-- The table of a section, which may have entries already. -/
def table (s : Section) (entries : List (Key × Value)) : Option (Table Value) :=
  Expression.fill ⟨.stated, some s.header.span, entries⟩ s.assignments

/-- Put the table of a section into its parent. -/
def addTo (s : Section) (parent : Table Value) : Option (Table Value) :=
  let key := s.header.key
  if s.header.many then (s.table []).bind fun t => parent.append key t
  else
    match parent.detach key with
    | none => none
    | some (entries, rest) => (s.table entries).map fun t => rest.push key (.table t)

/-- Put the table of a section where its header says. -/
def place (s : Section) (document : Document) : Option Document :=
  document.along .implied s.addTo s.header.path

end Section

/-- The document that sections make. -/
def ofSections (own : List Assignment) (later : List Section) : Option Document :=
  match Expression.fill (.empty .stated) own with
  | none => none
  | some document => later.foldlM (fun document s => s.place document) document

/-- The mark that may stand before the first character of a text. -/
def dropMark : List Char → List Char
  | '\uFEFF' :: rest => rest
  | cs => cs

/-- The document that a text writes, if it is one. -/
def read? (source : String) : Option Document :=
  match Expression.readAll? (dropMark source.toList) with
  | none => none
  | some expressions =>
    let (own, later) := sections expressions
    ofSections own later

end ReleaseBuilder.Toml
