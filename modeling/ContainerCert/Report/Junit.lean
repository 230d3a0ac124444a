import ContainerCert.Report.Results

/-!
# Results as JUnit XML

One suite for the image and one case for every check, in the order passed, failed, errors. Free
text stands in attributes and elements with the five characters that XML gives a meaning written
as entities. Times are seconds with three places; the time of the suite is the sum of the times
of its cases. It is added up in 64 bits, and where they do not hold it there is no document: the
program stops.
-/

namespace ContainerCert.Report

/-- What became of a check. -/
inductive Outcome where
  | passed
  | failed
  | errored
  deriving DecidableEq, Repr

/-- Every check with what became of it, in the order passed, failed, errors. -/
def Groups.tagged (groups : Groups) : List (Outcome × Entry) :=
  groups.passed.map (Outcome.passed, ·) ++ groups.failed.map (Outcome.failed, ·) ++
    groups.errors.map (Outcome.errored, ·)

namespace Junit

/-- A character in an attribute or element. -/
def escapeChar (c : Char) : List Char :=
  match c with
  | '&' => "&amp;".toList
  | '<' => "&lt;".toList
  | '>' => "&gt;".toList
  | '"' => "&quot;".toList
  | '\'' => "&apos;".toList
  | _ => [c]

/-- A text in an attribute or element. -/
def escape (text : String) : String :=
  String.ofList (text.toList.flatMap escapeChar)

/-- Three decimal digits. -/
def threeDigits (n : Nat) : String :=
  String.ofList [Nat.digitChar (n / 100 % 10), Nat.digitChar (n / 10 % 10), Nat.digitChar (n % 10)]

/-- Milliseconds as seconds with three places. -/
def seconds (milliseconds : UInt64) : String :=
  let n := milliseconds.toNat
  toString (n / 1000) ++ "." ++ threeDigits (n % 1000)

/-- The sum of two times, if 64 bits hold it. -/
def addTimes? (first second : UInt64) : Option UInt64 :=
  if first.toNat + second.toNat < UInt64.size then some (first + second) else none

/-- The sum of the times of all checks, if 64 bits hold it. -/
def totalTime? (groups : Groups) : Option UInt64 :=
  (groups.tagged.map fun (_, entry) => entry.elapsed).foldlM addTimes? 0

/-- An attribute with the blank before it. -/
def assigned (name value : String) : String :=
  " " ++ name ++ "=\"" ++ value ++ "\""

/-- The counts of checks, as attributes. -/
def counts (groups : Groups) : String :=
  assigned "tests" (toString groups.total) ++
    assigned "failures" (toString groups.failed.length) ++
    assigned "errors" (toString groups.errors.length)

/-- The element that says why a check did not pass. -/
def problem (element : String) (entry : Entry) : String :=
  "      <" ++ element ++ assigned "message" (escape entry.reason) ++ assigned "type" "" ++ ">" ++
    escape entry.help ++ "</" ++ element ++ ">\n"

/-- The element that says what became of a check, if it did not pass. -/
def verdict : Outcome → Entry → String
  | .passed, _ => ""
  | .failed, entry => problem "failure" entry
  | .errored, entry => problem "error" entry

/-- The case of one check. -/
def testcase (image : String) (outcome : Outcome) (entry : Entry) : String :=
  "    <testcase" ++ assigned "classname" (escape image) ++ assigned "name" (escape entry.name) ++
    assigned "time" (seconds entry.elapsed) ++ ">\n" ++ verdict outcome entry ++
    "      <system-out>" ++ escape entry.description ++ "</system-out>\n" ++ "    </testcase>\n"

/-- The document with the given time of the suite. -/
def document (results : Results) (total : UInt64) : String :=
  "<?xml version=\"1.0\" encoding=\"UTF-8\"?>\n" ++
    "<testsuites" ++ assigned "name" "preflight" ++ counts results.groups ++ ">\n" ++
    "  <testsuite" ++ assigned "name" (escape results.image) ++ counts results.groups ++
    assigned "time" (seconds total) ++
    assigned "timestamp" (escape results.testedOn) ++ ">\n" ++
    "    <properties><property" ++ assigned "name" "platform" ++
    assigned "value" (escape results.platform) ++ "/></properties>\n" ++
    String.join (results.groups.tagged.map fun (outcome, entry) =>
      testcase results.image outcome entry) ++
    "  </testsuite>\n" ++ "</testsuites>\n"

/-- The document, if the times of the checks can be added up. -/
def render (results : Results) : Option String :=
  (totalTime? results.groups).map (document results)

end Junit
end ContainerCert.Report
