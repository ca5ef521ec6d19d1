/-!
# Targets of requests

What a request over HTTP is for: a path, maybe with a scheme and a host in front of it and
a question behind it.

## Main Definitions

* `targetPath`: the path of a target
-/

namespace LoginThrottle

/-- Whether a character may stand in the name of a scheme. -/
def isSchemeChar (character : Char) : Bool :=
  character.isAlphanum || character = '+' || character = '-' || character = '.'

/-- Whether a character ends the path of a target. -/
def endsPath (character : Char) : Bool :=
  character = '?' || character = '#'

/-- What follows the scheme and the host, if a target begins with them. -/
def behindHost? (target : List Char) : Option (List Char) :=
  match target.span isSchemeChar with
  | (_ :: _, ':' :: '/' :: '/' :: rest) =>
    some (rest.dropWhile fun character => character ≠ '/' && !endsPath character)
  | _ => none

/-- The path of a target. It is never empty behind a host. -/
def targetPath (target : String) : String :=
  match behindHost? target.toList with
  | none => String.ofList (target.toList.takeWhile fun character => !endsPath character)
  | some rest =>
    match rest.takeWhile fun character => !endsPath character with
    | [] => "/"
    | path => String.ofList path

end LoginThrottle
