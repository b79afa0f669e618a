import LiveConfig.Sources.Basic

/-!
Contract: the edits that can be made to a list of property sources.

Owns: the edits, runs of them, and the source that an edit leaves without a place.
-/

namespace LiveConfig

inductive SourceEdit where
  | place (placement : Placement) (source : Source)
  | replace (name : String) (source : Source)
  | remove (name : String)

namespace SourceList

/-- The effect of an edit. -/
def apply (sources : SourceList) : SourceEdit → Except ConfigError Change
  | .place placement source => sources.place placement source
  | .replace name source => .ok (sources.replace name source)
  | .remove name => .ok (sources.remove name)

/-- The sources after an edit, which may fail. -/
def after (sources : SourceList) (edit : SourceEdit) : SourceList :=
  match sources.apply edit with
  | .ok change => change.2
  | .error _ => sources

/-- The sources after edits in turn. -/
def run (sources : SourceList) (edits : List SourceEdit) : SourceList :=
  edits.foldl after sources

/-- The source that an edit leaves without a place: one that it took out, or its own if that was not
put in. -/
def displaced (sources : SourceList) (edit : SourceEdit) : Option Source :=
  match sources.apply edit, edit with
  | .ok (some old, _), _ => some old
  | .error _, .place _ source | .error _, .replace _ source => some source
  | .ok (none, _), .replace _ source => some source
  | .ok (none, _), .place .. | .ok (none, _), .remove _ | .error _, .remove _ => none

end SourceList

end LiveConfig
