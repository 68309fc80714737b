import SecretsAdmin.OrderedMap

namespace SecretsAdmin.Server

/-!
# Links

Which clients or secrets are in which groups: a set of pairs, ordered by the member first.
-/

/-- That a client or a secret is in a group. -/
structure Link where
  member : Int64
  group : Int64
  deriving DecidableEq, Repr

instance : Ord Link where
  compare := compareLex (compareOn Link.member) (compareOn Link.group)

instance : Std.TransOrd Link :=
  inferInstanceAs (Std.TransCmp (compareLex (compareOn Link.member) (compareOn Link.group)))

/-- Which members are in which groups. -/
abbrev Links := OrderedMap Link Unit

namespace Links

/-- The groups of a member, in ascending order. -/
def groupsOf (links : Links) (member : Int64) : List Int64 :=
  (links.keys.filter fun link => link.member == member).map Link.group

/-- The members of a group, in ascending order. -/
def membersOf (links : Links) (group : Int64) : List Int64 :=
  (links.keys.filter fun link => link.group == group).map Link.member

/-- The links without those of a member. -/
def withoutMember (links : Links) (member : Int64) : Links :=
  links.filter fun link _ => link.member != member

/-- The links without those of a group. -/
def withoutGroup (links : Links) (group : Int64) : Links :=
  links.filter fun link _ => link.group != group

end Links

end SecretsAdmin.Server
