/-
Module: RubyBindings.Naming.Identifier
Purpose: Which names can be spelled as a C++ identifier, and which of those a program may declare.
  A fault says why a name is refused; a name has at most one, the first that applies.
Main exports: IdentifierFault, identifierFault?, declaredNameFault?, reservedWords
-/

namespace RubyBindings.Naming

/-- Why a name is not usable. -/
inductive IdentifierFault where
  | empty
  | badStart
  | badCharacter
  | reserved
deriving DecidableEq, Repr

/-- The wording of a fault. -/
def IdentifierFault.message : IdentifierFault → String
  | .empty => "name cannot be empty"
  | .badStart => "name must start with a letter or underscore"
  | .badCharacter => "name contains invalid characters"
  | .reserved => "name is a C++ reserved keyword"

/-- The characters an identifier may begin with: ASCII letters and the underscore. -/
def startsIdentifier (character : Char) : Bool :=
  character.isAlpha || character == '_'

/-- The characters an identifier may go on with: ASCII letters, ASCII digits and the underscore. -/
def continuesIdentifier (character : Char) : Bool :=
  character.isAlphanum || character == '_'

/-- The fault of a character list read as a C++ identifier. -/
def identifierListFault? : List Char → Option IdentifierFault
  | [] => some .empty
  | first :: rest =>
    if startsIdentifier first then
      if rest.all continuesIdentifier then none else some .badCharacter
    else some .badStart

/-- The fault of a name read as a C++ identifier; reserved words are identifiers here. -/
def identifierFault? (name : String) : Option IdentifierFault :=
  identifierListFault? name.toList

/-- The words of C++ that no declaration can be named with. -/
def reservedWords : List String :=
  ["alignas", "alignof", "and", "and_eq", "asm", "auto", "bitand", "bitor", "bool", "break",
    "case", "catch", "char", "char8_t", "char16_t", "char32_t", "class", "compl", "concept",
    "const", "consteval", "constexpr", "constinit", "const_cast", "continue", "co_await",
    "co_return", "co_yield", "decltype", "default", "delete", "do", "double", "dynamic_cast",
    "else", "enum", "explicit", "export", "extern", "false", "float", "for", "friend", "goto",
    "if", "inline", "int", "long", "mutable", "namespace", "new", "noexcept", "not", "not_eq",
    "nullptr", "operator", "or", "or_eq", "private", "protected", "public", "register",
    "reinterpret_cast", "requires", "return", "short", "signed", "sizeof", "static",
    "static_assert", "static_cast", "struct", "switch", "template", "this", "thread_local",
    "throw", "true", "try", "typedef", "typeid", "typename", "union", "unsigned", "using",
    "virtual", "void", "volatile", "wchar_t", "while", "xor", "xor_eq"]

/-- The fault of a name that is declared in C++ as written: a reserved word is refused before its
spelling is looked at. -/
def declaredNameFault? (name : String) : Option IdentifierFault :=
  if name ∈ reservedWords then some .reserved else identifierFault? name

end RubyBindings.Naming
