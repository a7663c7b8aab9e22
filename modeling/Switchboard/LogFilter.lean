import Switchboard.LogFilter.Directive

/-!
# Log filters

Which log messages are shown. A filter is a list of directives between commas.

In a filter the directives stand from the most specific to the least, those that speak of a span or
a field behind those that can be decided without one; of two that cover the same messages the later
stays.
-/

namespace Switchboard.LogFilter

/-- The filter that a text describes, in its normal form; none if a directive is malformed. -/
def normalize? (s : String) : Option String :=
  let parts := (Text.splitOn ',' s.toList).filter (!·.isEmpty)
  (parts.mapM LogDirective.ofText?).map fun directives =>
    let dynamic := directives.filter (·.isDynamic)
    let static := directives.filter (!·.isDynamic) ++ dynamic.filter (·.isStatic)
    let sorted := LogDirective.sort static ++ LogDirective.sort dynamic
    String.ofList (Text.joinWith [','] (sorted.map LogDirective.text))

end Switchboard.LogFilter
