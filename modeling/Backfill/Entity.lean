/-!
# Kinds of entities

There are two kinds of entities with a creation date, crates and their versions. A descriptor says
where a kind is read from, which fields identify it and which property of its nodes is set.
-/

namespace Backfill

inductive Kind where
  | crate
  | version
deriving DecidableEq, Repr

/-- How a kind is read from the source and found in the graph. -/
structure Descriptor where
  label : String
  readQuery : String
  countQuery : String
  keyFields : List String
  property : String
deriving DecidableEq, Repr

namespace Descriptor

/-- The statement that sets the property on the nodes with a given key and counts them. Values are
left to parameters, each named as the field or the property that it belongs to. -/
def writeStatement (d : Descriptor) : String :=
  let matched := ", ".intercalate (d.keyFields.map fun field => field ++ ": $" ++ field)
  "MATCH (n:" ++ d.label ++ " \x7b" ++ matched ++ "\x7d) SET n." ++ d.property ++ " = datetime($" ++
    d.property ++ ") RETURN count(n) AS matched"

/-- The query that counts the nodes of the label, and those that have the property. -/
def coverageQuery (d : Descriptor) : String :=
  "MATCH (n:" ++ d.label ++ ") RETURN count(n) AS total, count(n." ++ d.property ++
    ") AS with_property"

end Descriptor

namespace Kind

/-- All kinds, in the order in which they are worked through. -/
def all : List Kind :=
  [crate, version]

def name : Kind → String
  | crate => "crate"
  | version => "version"

def descriptor : Kind → Descriptor
  | crate =>
    { label := "Crate"
      readQuery := "SELECT crates.name AS name, crates.created_at AS created_at FROM crates"
      countQuery := "SELECT count(*) FROM crates"
      keyFields := ["name"]
      property := "created_at" }
  | version =>
    { label := "Version"
      readQuery := "SELECT crates.name AS name, versions.num AS version, " ++
        "versions.created_at AS created_at " ++
        "FROM versions JOIN crates ON versions.crate_id = crates.id"
      countQuery := "SELECT count(*) FROM versions JOIN crates ON versions.crate_id = crates.id"
      keyFields := ["name", "version"]
      property := "created_at" }

def label (k : Kind) : String :=
  k.descriptor.label

end Kind

end Backfill
