import Fanout.Path.Basic

/-!
# Languages of source files

* `Language` : the three grammars;
* `Language.ofPath` : the grammar that a file's extension names, in any letter case. Any other
  extension is read with the grammar that knows both types and markup.
-/

namespace Fanout

inductive Language where
  | typescript
  | tsx
  | javascript
  deriving Repr, DecidableEq, Inhabited

namespace Language

def name : Language → String
  | .typescript => "typescript"
  | .tsx => "tsx"
  | .javascript => "javascript"

/-- Whether types may be written. -/
def typed : Language → Bool
  | .javascript => false
  | _ => true

/-- Whether markup elements may be written. -/
def markup : Language → Bool
  | .typescript => false
  | _ => true

def ofExtension (extension : List Char) : Language :=
  match String.ofList extension with
  | "ts" | "mts" | "cts" => .typescript
  | "js" | "jsx" | "mjs" | "cjs" => .javascript
  | _ => .tsx

def ofPath (path : String) : Language :=
  ofExtension (Text.lowerAscii ((Path.extension? path.toList).getD []))

end Language
end Fanout
