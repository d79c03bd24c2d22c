/-!
# Addresses

A path is resolved against a base by joining the two with one slash.
-/

namespace Meteogram

namespace Address

/-- A text without the slashes at its start. -/
def dropSlashes (cs : List Char) : List Char := cs.dropWhile (· = '/')

/-- A text without the slashes at its end. -/
def dropLastSlashes (cs : List Char) : List Char := (dropSlashes cs.reverse).reverse

/-- Base and path with one slash between them. -/
def join (base path : String) : String :=
  String.ofList (dropLastSlashes base.toList ++ '/' :: dropSlashes path.toList)

/-- Whether a text has what ends the scheme of an address, anywhere in it. -/
def hasScheme : List Char → Bool
  | [] => false
  | c :: cs => "://".toList.isPrefixOf (c :: cs) || hasScheme cs

/-- Whether a text is taken for an address of its own rather than for a path. -/
def isAbsolute (s : String) : Bool := hasScheme s.toList

end Address

end Meteogram
