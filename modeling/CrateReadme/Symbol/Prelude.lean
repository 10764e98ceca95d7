import CrateReadme.Symbol.Kind
import CrateReadme.Text.Integer

/-!
# Names that need no import

Every crate sees the macros of the standard library, the primitive types and the items of the
standard prelude. Later editions of the language add items to the prelude.
-/

namespace CrateReadme.Prelude

/-- A name, what it stands for, and its full path. -/
structure Entry where
  ident : String
  kind : SymbolKind
  path : String
  deriving DecidableEq, Repr

def macros : List String :=
  ["assert", "assert_eq", "assert_ne", "cfg", "column", "compile_error", "concat", "dbg",
   "debug_assert", "debug_assert_eq", "debug_assert_ne", "env", "eprint", "eprintln", "file",
   "format", "format_args", "include", "include_bytes", "include_str", "line", "matches",
   "module_path", "option_env", "panic", "print", "println", "stringify", "thread_local", "todo",
   "unimplemented", "unreachable", "vec", "write", "writeln"]

def primitives : List String :=
  ["array", "bool", "char", "f16", "f32", "f64", "f128", "fn", "i8", "i16", "i32", "i64", "i128",
   "isize", "never", "pointer", "reference", "slice", "str", "tuple", "u8", "u16", "u32", "u64",
   "u128", "unit", "usize"]

/-- Items of the prelude in every edition, each with the module that holds it. -/
def firstEdition : List (String × String × SymbolKind) :=
  [("Copy", "marker", .trait), ("Send", "marker", .trait), ("Sized", "marker", .trait),
   ("Sync", "marker", .trait), ("Unpin", "marker", .trait), ("Drop", "ops", .trait),
   ("Fn", "ops", .trait), ("FnMut", "ops", .trait), ("FnOnce", "ops", .trait),
   ("drop", "mem", .function), ("Box", "boxed", .struct), ("ToOwned", "borrow", .trait),
   ("Clone", "clone", .trait), ("PartialEq", "cmp", .trait), ("PartialOrd", "cmp", .trait),
   ("Eq", "cmp", .trait), ("Ord", "cmp", .trait), ("AsRef", "convert", .trait),
   ("AsMut", "convert", .trait), ("Into", "convert", .trait), ("From", "convert", .trait),
   ("Default", "default", .trait), ("Iterator", "iter", .trait), ("Extend", "iter", .trait),
   ("IntoIterator", "iter", .trait), ("DoubleEndedIterator", "iter", .trait),
   ("ExactSizeIterator", "iter", .trait), ("Option", "option", .enumeration),
   ("Some", "option::Option", .enumeration), ("None", "option::Option", .enumeration),
   ("Result", "result", .enumeration), ("Ok", "result::Result", .enumeration),
   ("Err", "result::Result", .enumeration), ("String", "string", .struct),
   ("ToString", "string", .trait), ("Vec", "vec", .struct)]

/-- Items that the edition of 2021 adds. -/
def since2021 : List (String × String × SymbolKind) :=
  [("TryFrom", "convert", .trait), ("TryInto", "convert", .trait),
   ("FromIterator", "iter", .trait)]

/-- Items that the edition of 2024 adds. -/
def since2024 : List (String × String × SymbolKind) :=
  [("Future", "future", .trait), ("IntoFuture", "future", .trait)]

/-- The year of an edition. A missing or unreadable edition counts as the first. -/
def year (edition : Option String) : Int :=
  match edition with
  | none => 2015
  | some text => (Text.integer? 10 (Text.strip text.toList)).getD 2015

def items (year : Int) : List (String × String × SymbolKind) :=
  firstEdition ++ (if year ≥ 2021 then since2021 else []) ++ (if year ≥ 2024 then since2024 else [])

/-- The entries that a crate of the given edition sees, in the order in which they enter a scope. -/
def entries (edition : Option String) : List Entry :=
  macros.map (fun name => ⟨name ++ "!", .textMacro, "::std::" ++ name⟩) ++
  primitives.map (fun name => ⟨name, .primitive, "::std::" ++ name⟩) ++
  (items (year edition)).map fun (name, home, kind) =>
    ⟨name, kind, "::std::" ++ home ++ "::" ++ name⟩

end CrateReadme.Prelude
