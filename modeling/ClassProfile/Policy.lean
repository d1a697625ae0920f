import ClassProfile.Identity
import ClassProfile.Keyed

/-! Policies: which types are iterable, which namespaces need no import, and what
stands for a type that cannot be reduced. Names and namespaces are matched whole,
and only for being listed. -/
namespace ClassProfile

/-- A policy. The empty namespace is that of unqualified types. -/
structure Policy where
  iterableTypes : List String := []
  ambientNamespaces : List String := []
  fallback : Identity := .named "java.lang.Object"

namespace Policy

/-- The containers of one element type that are known without being listed. -/
def standardIterables : List String :=
  ["java.lang.Iterable", "java.util.Collection", "java.util.List", "java.util.Set",
    "java.util.SortedSet", "java.util.NavigableSet", "java.util.Queue", "java.util.Deque",
    "java.util.ArrayList", "java.util.LinkedList", "java.util.HashSet", "java.util.LinkedHashSet",
    "java.util.TreeSet", "java.util.ArrayDeque", "java.util.PriorityQueue"]

/-- The policy in force where none is given. Unqualified types cannot be imported. -/
def standard : Policy where
  iterableTypes := standardIterables
  ambientNamespaces := ["java.lang", ""]

/-- The type is a container of one element type. -/
def isIterable (policy : Policy) (type : Identity) : Bool :=
  policy.iterableTypes.contains type.name

/-- The type is in scope everywhere. -/
def isAmbient (policy : Policy) (type : Identity) : Bool :=
  !type.isPrimitive && !type.isArray &&
    policy.ambientNamespaces.contains (type.namespaceName?.getD "")

def sameTexts (xs ys : List String) : Bool := xs.all ys.contains && ys.all xs.contains

/-- The two policies list the same names and have fallbacks of one name. -/
def alike (p q : Policy) : Bool :=
  sameTexts p.iterableTypes q.iterableTypes &&
    sameTexts p.ambientNamespaces q.ambientNamespaces && p.fallback.sameName q.fallback

end Policy
end ClassProfile
