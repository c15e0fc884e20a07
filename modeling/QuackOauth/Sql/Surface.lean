import QuackOauth.Policy.Evaluate
import QuackOauth.Sql.Ast

/-!
# What inspection surfaces

The names that are allowed, refused or exempt, and the ways in which a request grows:
by an object, a function, a column, or a reason to refuse it.
-/

namespace QuackOauth
namespace Sql

open Policy

/-- A string with its ASCII letters in lower case. -/
def lowerAscii (s : String) : String :=
  String.ofList (s.toList.map Char.toLower)

/-- A string begins with another. -/
def hasStart (s start : String) : Bool :=
  start.toList.isPrefixOf s.toList

/-! ## Names -/

/-- The one view of the catalog that anyone may read. -/
def isAllowedSystemView (schema table : String) : Bool :=
  schema = "information_schema" && table = "tables"

/-- The names of system views that resolve without a schema. -/
def unqualifiedSystemViews : List String := [
  "pragma_database_list", "sqlite_master", "sqlite_schema", "sqlite_temp_master",
  "sqlite_temp_schema", "duckdb_constraints", "duckdb_columns", "duckdb_databases",
  "duckdb_indexes", "duckdb_schemas", "duckdb_tables", "duckdb_types", "duckdb_views",
  "duckdb_logs", "pg_am", "pg_prepared_statements", "pg_attribute", "pg_attrdef",
  "pg_class", "pg_constraint", "pg_collation", "pg_database", "pg_depend",
  "pg_description", "pg_enum", "pg_index", "pg_indexes", "pg_namespace", "pg_proc",
  "pg_sequence", "pg_sequences", "pg_settings", "pg_tables", "pg_tablespace", "pg_type",
  "pg_views", "columns", "schemata", "tables", "character_sets",
  "referential_constraints", "key_column_usage", "table_constraints",
  "constraint_column_usage", "constraint_table_usage", "check_constraints", "views"]

def looksLikeUnqualifiedSystemView (table : String) : Bool :=
  table ∈ unqualifiedSystemViews

/-- Functions that mirror ordinary catalog views. -/
def isExemptFunction (name : String) : Bool :=
  name ∈ ["duckdb_tables", "duckdb_columns"]

def allowedPragma (name : String) : Bool :=
  name ∈ ["version"]

def allowedSetting (name : String) : Bool :=
  name ∈ ["threads"]

/-- Scalar functions that read or change state. -/
def touchesState (name : String) : Bool :=
  name = "current_setting" || name = "getvariable" || name = "nextval" || name = "currval"

/-- Suffixes of files that a qualified name may turn out to read. -/
def fileSuffixes : List String := [
  "csv", "tsv", "txt", "parquet", "json", "jsonl", "ndjson", "geojson", "geojsonl",
  "shp", "gpkg", "fgb", "xlsx", "avro", "arrow", "db", "ddb", "duckdb", "sqlite", "gz",
  "zst"]

def isPathCharacter (c : Char) : Bool :=
  c = '/' || c = '\\' || c = ':'

/-- Whether a name may be bound as a file instead of a table. -/
def isReplacementScanName (target : QualifiedName) : Bool :=
  if target.catalog.toList.any isPathCharacter ||
      target.schema.toList.any isPathCharacter ||
      target.name.toList.any isPathCharacter then true
  else if '.' ∈ target.name.toList then true
  else if target.schema = "" ∧ target.catalog = "" then false
  else lowerAscii target.name ∈ fileSuffixes

/-! ## Requests -/

/-- Refuse a request.  The first reason stays. -/
def flagUnsafe (message : String) (req : AuthzRequest) : AuthzRequest :=
  { req with
    isUnsafe := true
    error := if req.error = "" then message else req.error }

def addNamedObject (object : String) (req : AuthzRequest) : AuthzRequest :=
  if object ∈ req.objects then req else { req with objects := req.objects ++ [object] }

/-- The schema of a name in lower case; the default if none is given. -/
def schemaOf (target : QualifiedName) : String :=
  if target.schema = "" then "main" else lowerAscii target.schema

/-- Surface a table or another object with a qualified name. -/
def addObject (target : QualifiedName) (req : AuthzRequest) : AuthzRequest :=
  if target.name = "" then req
  else
    let sch := schemaOf target
    let tbl := lowerAscii target.name
    -- A catalog that is attached must not inherit the grants of the local one.
    let req :=
      if target.catalog ≠ "" then flagUnsafe "catalog-qualified object" req else req
    if sch = "information_schema" ∨ sch = "pg_catalog" then
      if isAllowedSystemView sch tbl then req
      else flagUnsafe "system view is not allowlisted" req
    else if sch = "main" ∧ looksLikeUnqualifiedSystemView tbl then
      flagUnsafe "unqualified system view is not allowlisted" req
    else addNamedObject (sch ++ "." ++ tbl) req

/-- Surface a table function. -/
def addFunctionObject (name : String) (req : AuthzRequest) : AuthzRequest :=
  let lowered := lowerAscii (if name = "" then "?" else name)
  if isExemptFunction lowered then req else addNamedObject ("fn:" ++ lowered) req

/-- Surface a column. -/
def addColumn (col : String) (req : AuthzRequest) : AuthzRequest :=
  if col = "" then req
  else
    let c := lowerAscii col
    if c ∈ req.columns then req else { req with columns := req.columns ++ [c] }

/-- Surface the last part of a column path. -/
def addColumnRef (names : List String) (req : AuthzRequest) : AuthzRequest :=
  match names.getLast? with
  | none => req
  | some name => addColumn name req

end Sql
end QuackOauth
