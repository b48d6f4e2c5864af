import DirectiveBinding.Microsyntax.Clause
import DirectiveBinding.Text.Upper

/-! What a star attribute stands for: the keys and variables of an implicit template.

A star attribute with the key `ngFor` and the value
`let item of items; index as i; trackBy: byId` stands for a template with the
keys `ngFor`, `ngForOf` and `ngForTrackBy`, and the variables `item` and `i`. The
first key is always the star attribute's own. -/
namespace DirectiveBinding

open Text Microsyntax

/-- A key of the implicit template, under the star attribute's key. -/
structure TemplateKey where
  name : String
  expression : Option String := none
deriving DecidableEq, Repr

/-- A variable of the implicit template, and the context property it reads. -/
structure TemplateVariable where
  name : String
  value : String
deriving DecidableEq, Repr

structure TemplateBindings where
  keys : List TemplateKey
  vars : List TemplateVariable
deriving DecidableEq, Repr

/-- What a variable reads when no context property is given. -/
def implicitContext : String := "$implicit"

/-- The key of a keyword: `ngFor` and `of` give `ngForOf`. -/
def prefixedKey (key keyword : String) : String :=
  String.ofList (key.toList ++ capitalized keyword.toList)

namespace Microsyntax

/-- An expression, unless it is empty. -/
def expression? (s : List Char) : Option String :=
  if s.isEmpty then none else some (String.ofList s)

namespace Keyed

/-- Whether the clause has the form `index as i`, which reads the context and sets no key. -/
def readsContext (k : Keyed) : Bool := k.body.expression.isEmpty && k.body.boundAs.isSome

def keyName (key : String) (k : Keyed) : String := prefixedKey key (String.ofList k.keyword)

def keys (key : String) (k : Keyed) : List TemplateKey :=
  if k.readsContext then [] else [⟨k.keyName key, expression? k.body.expression⟩]

def vars (key : String) (k : Keyed) : List TemplateVariable :=
  let value := if k.readsContext then String.ofList k.keyword else k.keyName key
  k.body.boundAs.toList.map fun name => ⟨String.ofList name, value⟩

end Keyed

namespace Clause

/-- The expression of the star attribute's own key. -/
def leadExpression? : Clause → Option String
  | lead body => expression? body.expression
  | _ => none

/-- The further keys a clause sets. -/
def keys (key : String) : Clause → List TemplateKey
  | declare _ _ tail => tail.toList.flatMap (Keyed.keys key)
  | keyed k => k.keys key
  | _ => []

def vars (key : String) : Clause → List TemplateVariable
  | lead body => body.boundAs.toList.map fun name => ⟨String.ofList name, key⟩
  | declare name context tail =>
    ⟨String.ofList name, (context.map String.ofList).getD implicitContext⟩ ::
      tail.toList.flatMap (Keyed.vars key)
  | keyed k => k.vars key
  | unread => []

end Clause

end Microsyntax

namespace TemplateBindings

/-- What the clauses of a star attribute with this key stand for. -/
def ofClauses (key : String) (cs : List Clause) : TemplateBindings :=
  { keys := ⟨key, cs.findSome? Clause.leadExpression?⟩ :: cs.flatMap (Clause.keys key)
    vars := cs.flatMap (Clause.vars key) }

/-- What a star attribute with this key and value stands for. -/
def read (key value : String) : TemplateBindings := ofClauses key (clauses value.toList)

def keyNames (b : TemplateBindings) : List String := b.keys.map TemplateKey.name

end TemplateBindings

end DirectiveBinding
