import RouteSurvey.Source.Grammar.Path

/-! # Attributes

Attributes before an item and at the beginning of what they belong to.
-/

namespace RouteSurvey.Source.Grammar

open RouteSurvey.Source.Parser

variable (g : Grammar)

/-- The value of an attribute: a literal that stands alone, or an expression. -/
def attributeValue : Parser Expr := do
  match Next.literal? (← rest) with
  | some (found, []) =>
    let _ ← literal
    return .literal found
  | _ =>
    refuse fun tokens => Next.mark "#" tokens && Next.group .bracket (tokens.drop 1)
    return (← g.expr true).expr

/-- What stands inside an attribute. -/
def attributeBody : Parser Attribute := do
  let path ← if ← next (Next.word "unsafe") then
      pure { segments := [{ name := ← anyWord }] }
    else plainPath
  let content ← match ← rest with
    | .group _ inner :: _ =>
      skip 1
      pure (Attribute.Content.arguments inner)
    | tokens =>
      if Next.mark "=" tokens && !Next.mark "==" tokens && !Next.mark "=>" tokens then
        skip 1
        Attribute.Content.value <$> attributeValue g
      else pure .bare
  return { isAbsolute := path.isAbsolute, path := path.names, content := content }

/-- Attributes before what they belong to. -/
def outerAttributes : Parser (List Attribute) :=
  manyWhile (Next.mark "#") do
    mark "#"
    group .bracket (attributeBody g)

/-- Attributes inside what they belong to. -/
def innerAttributes : Parser (List Attribute) :=
  manyWhile (fun tokens => Next.mark "#" tokens && Next.mark "!" (tokens.drop 1)) do
    mark "#"
    mark "!"
    group .bracket (attributeBody g)

end RouteSurvey.Source.Grammar
