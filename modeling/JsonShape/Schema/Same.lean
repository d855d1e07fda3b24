import JsonShape.Schema.Basic

/-!
# Equality of schemas

Two schemas are the same (`Schema.same`) if they have the same keywords with the same values. As for
JSON values, the order of named things does not count and the order of lists does.
-/

namespace JsonShape

/-- Whether both are absent, or both are present and related. -/
def relateOption {α β : Type} (related : α → β → Bool) : Option α → Option β → Bool
  | none, none => true
  | some a, some b => related a b
  | _, _ => false

/-- Whether two lists have the same length and related elements. -/
def relateList {α β : Type} (related : α → β → Bool) : List α → List β → Bool
  | [], [] => true
  | a :: as, b :: bs => related a b && relateList related as bs
  | _, _ => false

/-- Whether two lists of members have the same names, with related values. -/
def Members.relate {α β : Type} (related : α → β → Bool) (as : Members α) (bs : Members β) : Bool :=
  as.length == bs.length && as.all fun (name, a) => (bs.lookup name).any (related a)

/-- Whether two values of `items` have the same form and related sub-schemas. -/
def Items.relate {α β : Type} (related : α → β → Bool) : Items α → Items β → Bool
  | tuple as, tuple bs => relateList related as bs
  | single a, single b => related a b
  | _, _ => false

/-- Equality of facets. -/
def Facets.same (a b : Facets) : Bool :=
  TextKeyword.all.all (fun keyword => a.text? keyword == b.text? keyword)
    && NumberKeyword.all.all (fun keyword =>
      relateOption Number.same (a.number? keyword) (b.number? keyword))
    && relateOption TypeSpec.same a.type b.type
    && a.required == b.required
    && a.uniqueItems == b.uniqueItems
    && relateOption Json.sameElements a.choices b.choices
    && Members.relate Json.same a.extra b.extra

/-- Whether two containers of sub-schemas have the same form and related sub-schemas. -/
def Parts.relate {α β : Type} (related : α → β → Bool) (a : Parts α) (b : Parts β) : Bool :=
  MapKeyword.all.all (fun keyword =>
      relateOption (Members.relate related) (a.map? keyword) (b.map? keyword))
    && ListKeyword.all.all (fun keyword =>
      relateOption (relateList related) (a.list? keyword) (b.list? keyword))
    && SingleKeyword.all.all (fun keyword =>
      relateOption related (a.single? keyword) (b.single? keyword))
    && relateOption (Items.relate related) a.items b.items

namespace Schema

/-- Equality of schemas: each part of the first is compared with its counterpart in the second. -/
def same : Schema → Schema → Bool :=
  fold
    (fun accepts => fun
      | boolean other => accepts == other
      | object _ _ => false)
    (fun facets parts => fun
      | boolean _ => false
      | object otherFacets otherParts =>
        facets.same otherFacets && parts.relate (fun isSame other => isSame other) otherParts)

end Schema

end JsonShape
