import Fanout.Grammar.Expression

/-!
# Statements and declarations
-/

namespace Fanout.Grammar
open Rule

def Ahead.statementEnds (a : Ahead) (l : Language) : Bool :=
  Lexeme.endsBefore l.typed a.source a.next a.broken

/-- The end of a statement: a semicolon, or a place where none is needed. -/
def semicolon (l : Language) : Rule := mark ";" <|> lexeme (.statementEnd l.typed)

def block : Rule := node "statement_block" (mark "\x7b" ++ inBody (many (phrase .statement)) ++ mark "\x7d")

def condition (l : Language) : Rule := parenthesizedExpression l

def expressionStatement (l : Language) : Rule :=
  node "expression_statement" (phrase .expressions ++ semicolon l)

/-! ## Declarations -/

def declarator (l : Language) : Rule :=
  node "variable_declarator"
    (binding ++
      (if l.typed then
        (ahead fun a => if a.isOperator "!" && !a.ends then mark "!" ++ typeAnnotation else maybe typeAnnotation)
      else done) ++
      maybe initializer)

def declared (l : Language) (word : String) (stop : Rule) : Rule :=
  let kind := if word == "var" then "variable_declaration" else "lexical_declaration"
  node kind (keyword word ++ list (declarator l) ++ stop)

def variableStatement (l : Language) (word : String) : Rule := declared l word (semicolon l)

def functionDeclaration (l : Language) : Rule :=
  let name := word "identifier"
  let signature := node "function_signature"
    (maybe (keyword "async") ++ keyword "function" ++ name ++ phrase .callSignature ++ semicolon l)
  let full := functionNode "function_declaration" "generator_function_declaration" name
  if l.typed then full <|> signature else full

def classDeclaration (l : Language) : Rule :=
  node "class_declaration" (decorators ++ keyword "class" ++ classTail l (className l))

def abstractClass (l : Language) : Rule :=
  node "abstract_class_declaration"
    (decorators ++ keyword "abstract" ++ keyword "class" ++ classTail l (className l))

def interface : Rule :=
  let parents := node "extends_type_clause" (keyword "extends" ++ list namedType)
  node "interface_declaration"
    (keyword "interface" ++ typeName ++ maybe (phrase .typeParameters) ++
      onlyIf (·.word == "extends") parents ++ node "interface_body" (phrase .objectType))

def enumeration : Rule :=
  let member := propertyName ++ maybe (extend "enum_assignment" none initializer)
  node "enum_declaration"
    (maybe (keyword "const") ++ keyword "enum" ++ word "identifier" ++
      node "enum_body" (braced (maybe (trailedList member))))

def typeAlias (l : Language) : Rule :=
  node "type_alias_declaration"
    (keyword "type" ++ typeName ++ maybe (phrase .typeParameters) ++ mark "=" ++ phrase .type ++ semicolon l)

/-- A name with dots, where all but the last two parts are members. -/
def dottedName : Rule :=
  let property := word "property_identifier"
  word "identifier" ++
    many (guard (fun a => a.isOperator "." && (a.afterChar.afterWord).isOperator ".")
      (extend "member_expression" (.some .object) (mark "." ++ field .property property))) ++
    onlyIf (·.isOperator ".") (extend "nested_identifier" none (mark "." ++ property))

def moduleTail : Rule :=
  (ahead fun a => if a.startsWord then dottedName else phrase .string) ++
    onlyIf (·.char == '\x7b') functionBody

def namedModule : Rule := node "module" (keyword "module" ++ moduleTail)
def innerModule : Rule := node "internal_module" (keyword "namespace" ++ moduleTail)

def importAlias (l : Language) : Rule :=
  node "import_alias" (keyword "import" ++ word "identifier" ++ mark "=" ++ dottedName ++ semicolon l)

def ambient (l : Language) : Rule :=
  node "ambient_declaration" (keyword "declare" ++ ahead fun a =>
    match a.word with
    | "global" => keyword "global" ++ functionBody
    | "namespace" => innerModule
    | "module" =>
      if a.afterWord.isOperator "." then
        keyword "module" ++ mark "." ++ word "property_identifier" ++ mark ":" ++ phrase .type ++ semicolon l
      else namedModule
    | _ => phrase .statement)

/-- Whether a word comes next that is followed by another word on the same line. -/
def Ahead.heads (a : Ahead) : Bool := !a.afterWord.broken && a.afterWord.startsWord

def declaration? (l : Language) (a : Ahead) : Option Rule :=
  let b := a.afterWord
  match a.word with
  | "function" =>
    let c := if b.char == '*' then b.afterChar else b
    if c.startsWord then some (functionDeclaration l) else none
  | "async" =>
    let c := b.afterWord
    let d := if c.char == '*' then c.afterChar else c
    if b.word == "function" && !b.broken && d.startsWord then some (functionDeclaration l) else none
  | "class" =>
    if b.startsWord && b.word != "extends" then some (classDeclaration l) else none
  | "var" => some (variableStatement l "var")
  | "const" => if l.typed && b.word == "enum" then some enumeration else some (variableStatement l "const")
  | "let" =>
    if (b.startsWord || b.char == '\x7b' || b.char == '[') && !b.statementEnds l then
      some (variableStatement l "let")
    else none
  | "enum" => if l.typed then some enumeration else none
  | "interface" => if l.typed && b.startsWord then some interface else none
  | "type" => if l.typed && a.heads then some (typeAlias l) else none
  | "abstract" => if l.typed && b.word == "class" && !b.broken then some (abstractClass l) else none
  | "module" =>
    if l.typed && !b.broken && (b.startsWord || b.char == '"' || b.char == '\'') then some namedModule
    else none
  | "declare" => if l.typed && a.heads then some (ambient l) else none
  | _ => none

/-! ## Imports and exports -/

def moduleName : Rule := ahead fun a => if a.startsWord then word "identifier" else phrase .string

def importAttribute : Rule := onlyIf (·.word == "with") (node "import_attribute" (keyword "with" ++ phrase .object))

def fromClause : Rule := keyword "from" ++ phrase .string

/-- The word that restricts a specifier to types. -/
def typeModifier (l : Language) : Rule :=
  if l.typed then
    onlyIf (fun a => (a.word == "type" || a.word == "typeof") && a.afterWord.startsWord && a.afterWord.word != "as")
      (keyword "type" <|> keyword "typeof")
  else done

def specifiers (l : Language) (kind : String) : Rule :=
  braced (maybe (trailedList (node kind
    (typeModifier l ++ moduleName ++ onlyIf (·.word == "as") (keyword "as" ++ moduleName)))))

def importClause (l : Language) : Rule :=
  let rest := ahead fun a =>
    if a.char == '*' then node "namespace_import" (mark "*" ++ keyword "as" ++ word "identifier")
    else node "named_imports" (specifiers l "import_specifier")
  node "import_clause" (ahead fun a =>
    if a.startsWord then word "identifier" ++ maybe (mark "," ++ rest) else rest)

def importStatement (l : Language) : Rule := ahead fun a =>
  let b := a.afterWord
  let isType := l.typed && (b.word == "type" || b.word == "typeof") &&
    (b.afterWord.char == '\x7b' || b.afterWord.char == '*' ||
      (b.afterWord.startsWord && (b.afterWord.word != "from" || b.afterWord.afterWord.word == "from")))
  let kind := if isType then keyword b.word else done
  let required := node "import_require_clause"
    (word "identifier" ++ mark "=" ++ keyword "require" ++ parenthesized (phrase .string))
  let plain := node "import_statement"
    (keyword "import" ++ kind ++
      (ahead fun c =>
        if c.char == '"' || c.char == '\'' then phrase .string
        else (importClause l ++ fromClause) <|> (if l.typed then required else fail)) ++
      importAttribute ++ semicolon l)
  if l.typed && b.startsWord && b.afterWord.isOperator "=" then plain <|> importAlias l else plain

def exportClause (l : Language) : Rule := node "export_clause" (specifiers l "export_specifier")

/-- A declaration as it stands behind `export`, where a namespace is no expression. -/
def exported? (l : Language) (a : Ahead) : Option Rule :=
  if l.typed && a.word == "namespace" && a.heads then some innerModule
  else if l.typed && a.word == "import" then some (importAlias l)
  else declaration? l a

/-- What follows a decorator: a class that is declared. -/
def decoratedClass (l : Language) : Rule :=
  classDeclaration l <|> (if l.typed then abstractClass l else fail)

def exportStatement (l : Language) : Rule :=
  let stop := semicolon l
  node "export_statement" (decorators ++ keyword "export" ++ ahead fun a =>
    if a.char == '*' then
      (if a.afterChar.word == "as" then node "namespace_export" (mark "*" ++ keyword "as" ++ moduleName)
       else mark "*") ++ fromClause ++ stop
    else if a.char == '\x7b' then exportClause l ++ onlyIf (·.word == "from") fromClause ++ stop
    else if a.char == '@' then decoratedClass l
    else if l.typed && a.char == '=' then mark "=" ++ phrase .expression ++ stop
    else if l.typed && a.word == "type" && a.afterWord.char == '\x7b' then
      keyword "type" ++ exportClause l ++ onlyIf (·.word == "from") fromClause ++ stop
    else if l.typed && a.word == "as" then
      keyword "as" ++ keyword "namespace" ++ word "identifier" ++ stop
    else if a.word == "default" then
      keyword "default" ++ ahead fun b =>
        if b.char == '@' then decoratedClass l <|> (phrase .expression ++ stop)
        else match declaration? l b with
          | some r => r
          | none => phrase .expression ++ stop
    else match exported? l a with
      | some r => r
      | none => fail)

/-! ## Loops and branches -/

def forIn : Rule :=
  let bound := ahead fun a =>
    if ["var", "let", "const"].contains a.word && !(a.afterWord.word == "in" || a.afterWord.isOperator "=") then
      keyword a.word ++ binding
    else phrase .pattern
  let header := parenthesized (bound ++ (keyword "in" <|> keyword "of") ++ phrase .expressions)
  node "for_in_statement" (keyword "for" ++ maybe (keyword "await") ++ header ++ phrase .statement)

def forLoop (l : Language) : Rule :=
  let empty := node "empty_statement" (mark ";")
  let orEmpty := ahead fun a => if a.char == ';' then empty else phrase .expressions ++ mark ";"
  let start := ahead fun a =>
    if ["var", "let", "const"].contains a.word then declared l a.word (mark ";") else orEmpty
  node "for_statement"
    (keyword "for" ++ parenthesized (start ++ orEmpty ++ maybe (phrase .expressions)) ++ phrase .statement)

def ifStatement (l : Language) : Rule :=
  node "if_statement" (keyword "if" ++ condition l ++ phrase .statement ++
    onlyIf (·.word == "else") (node "else_clause" (keyword "else" ++ phrase .statement)))

def switchStatement (l : Language) : Rule :=
  let body := many (guard (fun a => a.word != "case" && a.word != "default") (phrase .statement))
  let branch := ahead fun a =>
    if a.word == "case" then
      node "switch_case" (keyword "case" ++ inBrackets (phrase .expressions) ++ mark ":" ++ body)
    else if a.word == "default" then node "switch_default" (keyword "default" ++ mark ":" ++ body)
    else fail
  node "switch_statement"
    (keyword "switch" ++ condition l ++
      node "switch_body" (mark "\x7b" ++ inBody (many branch) ++ mark "\x7d"))

def tryStatement (l : Language) : Rule :=
  let caught := onlyIf (·.char == '(')
    (parenthesized (binding ++ (if l.typed then maybe typeAnnotation else done)))
  node "try_statement" (keyword "try" ++ phrase .block ++
    onlyIf (·.word == "catch") (node "catch_clause" (keyword "catch" ++ caught ++ phrase .block)) ++
    onlyIf (·.word == "finally") (node "finally_clause" (keyword "finally" ++ phrase .block)))

def jump (l : Language) (kind word : String) : Rule :=
  node kind (keyword word ++
    (ahead fun a =>
      if a.startsWord && !a.statementEnds l then Rule.word "statement_identifier" else done) ++
    semicolon l)

def returnStatement (l : Language) : Rule :=
  node "return_statement" (keyword "return" ++
    (ahead fun a => if a.char == ';' || a.statementEnds l then done else phrase .expressions) ++ semicolon l)

/-! ## Any statement -/

/-- A statement that starts with a brace: an object if its first name is followed by a colon, a
block otherwise, and each where the other fails. -/
def bracedStatement (l : Language) (a : Ahead) : Rule :=
  let b := a.afterChar
  if b.startsWord && b.afterWord.char == ':' then expressionStatement l <|> phrase .block
  else phrase .block <|> expressionStatement l

def decoratedStatement (l : Language) : Rule := decoratedClass l <|> exportStatement l

def statement (l : Language) : Rule := ahead fun a =>
  let b := a.afterWord
  match a.char with
  | '\x7b' => bracedStatement l a
  | ';' => node "empty_statement" (mark ";")
  | '@' => decoratedStatement l
  | _ =>
    match a.word with
    | "" => expressionStatement l
    | "if" => ifStatement l
    | "for" => forIn <|> forLoop l
    | "while" => node "while_statement" (keyword "while" ++ condition l ++ phrase .statement)
    | "do" =>
      node "do_statement"
        (keyword "do" ++ phrase .statement ++ keyword "while" ++ condition l ++ maybe (semicolon l))
    | "switch" => switchStatement l
    | "try" => tryStatement l
    | "with" => node "with_statement" (keyword "with" ++ condition l ++ phrase .statement)
    | "break" => jump l "break_statement" "break"
    | "continue" => jump l "continue_statement" "continue"
    | "debugger" => node "debugger_statement" (keyword "debugger" ++ semicolon l)
    | "return" => returnStatement l
    | "throw" => node "throw_statement" (keyword "throw" ++ phrase .expressions ++ semicolon l)
    | "export" => exportStatement l
    | "import" =>
      if b.char == '(' || b.isOperator "." then expressionStatement l else importStatement l
    | w =>
      if b.char == ':' then
        node "labeled_statement" (word "statement_identifier" ++ mark ":" ++ phrase .statement)
      else if l.typed && w == "namespace" && a.heads then
        node "expression_statement" (innerModule ++ semicolon l)
      else match declaration? l a with
        | some r => r
        | none => expressionStatement l

def program : Rule :=
  maybe (lexeme .interpreterLine) ++ many (phrase .statement) ++ lexeme .endOfText

end Fanout.Grammar
