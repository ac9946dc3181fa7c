/-!
# Types of the database

The catalog knows each type by a name and a number. Arrays are types of their own: an array's name
is that of its items after an underscore. Two types are arrays without being named so; they count
their items from zero and are here called vectors.
-/

namespace EntityMapper.Wire

/-- A type that is no array. Those whose values the library reads have constructors of their own. -/
inductive ScalarType where
  | bool
  | bytea
  /-- Texts of at most 63 bytes, for names. -/
  | name
  | int8
  | int2
  | int4
  | text
  /-- Numbers of objects, four bytes without sign. -/
  | oid
  | json
  | float4
  | float8
  /-- Texts that are filled up with blanks. -/
  | bpchar
  /-- Texts with a greatest length. -/
  | varchar
  | timestamp
  | timestamptz
  | uuid
  /-- JSON values in binary form. -/
  | jsonb
  | other (name : String) (oid : Nat)
deriving DecidableEq, Repr

namespace ScalarType

/-- The types with a constructor of their own. -/
def known : List ScalarType := [.bool, .bytea, .name, .int8, .int2, .int4, .text, .oid, .json,
  .float4, .float8, .bpchar, .varchar, .timestamp, .timestamptz, .uuid, .jsonb]

/-- The name in the catalog. -/
def catalogName : ScalarType → String
  | .bool => "bool"
  | .bytea => "bytea"
  | .name => "name"
  | .int8 => "int8"
  | .int2 => "int2"
  | .int4 => "int4"
  | .text => "text"
  | .oid => "oid"
  | .json => "json"
  | .float4 => "float4"
  | .float8 => "float8"
  | .bpchar => "bpchar"
  | .varchar => "varchar"
  | .timestamp => "timestamp"
  | .timestamptz => "timestamptz"
  | .uuid => "uuid"
  | .jsonb => "jsonb"
  | .other n _ => n

/-- The number in the catalog. -/
def number : ScalarType → Nat
  | .bool => 16
  | .bytea => 17
  | .name => 19
  | .int8 => 20
  | .int2 => 21
  | .int4 => 23
  | .text => 25
  | .oid => 26
  | .json => 114
  | .float4 => 700
  | .float8 => 701
  | .bpchar => 1042
  | .varchar => 1043
  | .timestamp => 1114
  | .timestamptz => 1184
  | .uuid => 2950
  | .jsonb => 3802
  | .other _ n => n

/-- The other types of the catalog, with their numbers. -/
def others : List (String × Nat) := [
  ("char", 18), ("regproc", 24), ("tid", 27), ("xid", 28), ("cid", 29), ("pg_ddl_command", 32),
  ("xml", 142), ("pg_node_tree", 194), ("table_am_handler", 269), ("index_am_handler", 325),
  ("point", 600), ("lseg", 601), ("path", 602), ("box", 603), ("polygon", 604), ("line", 628),
  ("cidr", 650), ("unknown", 705), ("circle", 718), ("macaddr8", 774), ("money", 790),
  ("macaddr", 829), ("inet", 869), ("aclitem", 1033), ("date", 1082), ("time", 1083),
  ("interval", 1186), ("timetz", 1266), ("bit", 1560), ("varbit", 1562), ("numeric", 1700),
  ("refcursor", 1790), ("regprocedure", 2202), ("regoper", 2203), ("regoperator", 2204),
  ("regclass", 2205), ("regtype", 2206), ("record", 2249), ("cstring", 2275), ("any", 2276),
  ("anyarray", 2277), ("void", 2278), ("trigger", 2279), ("language_handler", 2280),
  ("internal", 2281), ("anyelement", 2283), ("_record", 2287), ("anynonarray", 2776),
  ("txid_snapshot", 2970), ("fdw_handler", 3115), ("pg_lsn", 3220), ("tsm_handler", 3310),
  ("pg_ndistinct", 3361), ("pg_dependencies", 3402), ("anyenum", 3500), ("tsvector", 3614),
  ("tsquery", 3615), ("gtsvector", 3642), ("regconfig", 3734), ("regdictionary", 3769),
  ("anyrange", 3831), ("event_trigger", 3838), ("int4range", 3904), ("numrange", 3906),
  ("tsrange", 3908), ("tstzrange", 3910), ("daterange", 3912), ("int8range", 3926),
  ("jsonpath", 4072), ("regnamespace", 4089), ("regrole", 4096), ("regcollation", 4191),
  ("int4multirange", 4451), ("nummultirange", 4532), ("tsmultirange", 4533),
  ("tstzmultirange", 4534), ("datemultirange", 4535), ("int8multirange", 4536),
  ("anymultirange", 4537), ("anycompatiblemultirange", 4538), ("pg_brin_bloom_summary", 4600),
  ("pg_brin_minmax_multi_summary", 4601), ("pg_mcv_list", 5017), ("pg_snapshot", 5038),
  ("xid8", 5069), ("anycompatible", 5077), ("anycompatiblearray", 5078),
  ("anycompatiblenonarray", 5079), ("anycompatiblerange", 5080)]

/-- The type of a name. -/
def ofName? (name : String) : Option ScalarType :=
  (known.find? fun t => t.catalogName == name) <|>
    (others.find? fun (n, _) => n == name).map fun (n, number) => .other n number

end ScalarType

/-- A type of the catalog. -/
inductive PgType where
  /-- A type that is no array. -/
  | scalar (type : ScalarType)
  /-- An array that counts its items from zero. -/
  | vector (item : ScalarType)
  | array (item : PgType)
deriving DecidableEq, Repr

namespace PgType

/-- The name in the catalog. -/
def name : PgType → String
  | .scalar t => t.catalogName
  | .vector t => t.catalogName ++ "vector"
  | .array item => "_" ++ item.name

/-- The number in the catalog of a type whose values are items of arrays. -/
def number : PgType → Nat
  | .scalar t => t.number
  | .vector .oid => 30
  | .vector _ => 22
  | .array item => item.number

/-- The type of a name that is no array's. -/
def ofItemName? (name : String) : Option PgType :=
  if name = "int2vector" then some (.vector .int2)
  else if name = "oidvector" then some (.vector .oid)
  else (ScalarType.ofName? name).map .scalar

/-- The type of a name. -/
def ofName? (name : String) : Option PgType :=
  match ofItemName? name with
  | some type => some type
  | none =>
    match name.toList with
    | '_' :: item => (ofItemName? (String.ofList item)).map .array
    | _ => none

/-- The type of an array's items. -/
def item? : PgType → Option PgType
  | .scalar _ => none
  | .vector t => some (.scalar t)
  | .array item => some item

/-- The number of an array's first item. -/
def lowerBound : PgType → Int
  | .vector _ => 0
  | _ => 1

end PgType

end EntityMapper.Wire
