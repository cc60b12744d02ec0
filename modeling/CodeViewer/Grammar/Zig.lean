import CodeViewer.Grammar.Block

/-!
# The grammar of Zig

Zig has no block comments, so a text that starts with one is refused.
-/

namespace CodeViewer

namespace Zig

/-- The keywords of the language. -/
def keywords : List String :=
  ["inline", "while", "for", "extern", "packed", "export", "pub", "noalias", "comptime",
   "volatile", "align", "linksection", "threadlocal", "allowzero", "noinline", "callconv",
   "struct", "enum", "const", "union", "opaque", "asm", "unreachable", "break", "return",
   "continue", "defer", "errdefer", "await", "resume", "suspend", "async", "nosuspend", "try",
   "catch", "if", "else", "switch", "orelse", "usingnamespace", "test", "and", "or", "bool",
   "void", "type", "blk", "var"]

/-- The builtin functions that are listed. -/
def builtins : List String := ["@This", "@import", "@as"]

/-- The words that are taken for names of types. -/
def types : List String :=
  ["Allocator", "Token", "anytype", "noreturn", "error", "anyerror", "anyframe", "anyopaque",
   "i8", "i16", "i32", "i64", "i128", "u1", "u2", "u3", "u4", "u5", "u6", "u7", "u8", "u16",
   "u32", "u64", "u128", "f16", "f32", "f64", "usize", "uword", "isize", "c_short", "c_int",
   "c_long", "c_longlong", "c_ushort", "c_uint", "c_ulong", "c_ulonglong", "c_float",
   "c_double", "c_void"]

/-- The words that stand for values. -/
def literals : List String := ["true", "false", "null", "undefined"]

/-- The operators. -/
def operators : List String := ["+", "-", "*", "/", "%", "==", "!=", "<", ">", "<=", ">="]

/-- A rule that gives one class to what a pattern matches. -/
def plain (cls : Class) (pattern : String) : Rule :=
  .mk { cls := cls, pattern := pattern } none

/-- Calls of builtin functions. -/
def builtinCall : Rule := plain Class.builtIn "@[a-zA-Z_]\\w*"

/-- The parameters of a function declaration; closing them ends the declaration's mode. -/
def params : Rule :=
  .mk
    { cls := "params", literal := "(", finish := "\\)", endsParent := true, noInherit := true,
      useCategories := true }
    (some
      [Block.whitespace,
       Block.lineComment "//",
       plain Class.number "\\b[0-9]+\\b",
       builtinCall,
       plain Class.operator ":|\\(",
       plain Class.punctuation ","])

/-- Function declarations, from the keyword to the opening brace or the end of the parameters. -/
def function : Rule :=
  .mk
    { cls := "function", keywords := some ["fn"], finish := "\\\x7b", excludeEnd := true }
    (some [plain Class.title "[a-zA-Z_][a-zA-Z0-9_]*", params])

/-- Function calls with their arguments. -/
def call : Rule :=
  .mk
    { cls := "function-call", pattern := "[a-zA-Z_][a-zA-Z0-9_]*\\(", finish := "\\)",
      excludeEnd := true, useCategories := true }
    (some
      [builtinCall,
       plain Class.number "\\b[0-9]+\\b",
       Block.quoteString,
       plain Class.number "\\b0x[0-9a-fA-F_]+"])

/-- A line of a multi-line string, from its backslash on. -/
def multiline : Rule :=
  .mk
    { cls := "multiline", pattern := "\\\\", finish := "$", noInherit := true,
      absorbUnmatched := true }
    (some
      [.mk { cls := "multiline", pattern := "\\\\", finish := "$", absorbUnmatched := true }
        none])

end Zig

/-- The grammar of Zig. -/
def zig : Grammar :=
  { name := "zig"
    aliases := ["ziglang"]
    filetypes := ["*.zig", "*.zon"]
    categories :=
      [⟨Class.keyword, Zig.keywords⟩,
       ⟨Class.builtIn, Zig.builtins⟩,
       ⟨Class.type, Zig.types⟩,
       ⟨Class.literal, Zig.literals⟩,
       ⟨Class.operator, Zig.operators⟩]
    illegal := "/\\*"
    rules :=
      [Block.whitespace,
       Zig.plain Class.number "\\b0b[01_]+",
       Zig.plain Class.number "\\b0x[0-9a-fA-F_]+",
       Zig.plain Class.number "\\b0o[0-7_]+",
       Zig.plain Class.number "\\b[0-9][0-9_]*\\.[0-9_]+([eE][-+]?[0-9]+)?",
       Zig.plain Class.number "\\b[0-9]+\\b",
       Zig.plain Class.builtIn "\\bmem\\.Copy\\b",
       Zig.plain "meta-event" "\\|[a-zA-Z_]+\\|",
       Zig.plain "comment-todo" "//\\s*TODO:.*$",
       Zig.plain Class.comment "//[^\\n]*",
       Zig.plain "errorhandling" "!(?=\\w+)",
       Zig.plain Class.operator
         "[-\x7d\x7b+%/*=<>!]=?|&&|\\|\\||<<=?|>>=?|\\*\\*|\\+\\+|--|\\->|\\.\\.+",
       Zig.plain "property" "\\.\\w+",
       Block.quoteString,
       Zig.plain "symbol" "'[a-zA-Z_][a-zA-Z0-9_]*'",
       Block.aposString,
       Block.number,
       Zig.builtinCall,
       Zig.plain Class.literal "\\\\[xuU][a-fA-F0-9]+",
       Zig.function,
       Zig.call,
       Zig.multiline,
       Zig.plain Class.operator "[&|^~?]=?",
       Zig.plain Class.punctuation "[()\\[\\];,.:]"] }

end CodeViewer
