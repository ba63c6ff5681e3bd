/-!
# Overrides of a builder

Some machines need extra flags, most of them to keep a known crash or an unsupported configuration
out of the measurements. An override applies to every builder whose name contains its fragment;
case matters, and several overrides may apply to one builder.

## Main definitions

- `Override.table`: the known overrides.
- `Override.matching`: the overrides of a builder, in table order.
- `Override.flagsFor`: their flags, one after the other.
-/

namespace BenchJob

/-- Does `word` occur in the text as a contiguous piece? -/
def occursIn (word : List Char) : List Char → Bool
  | [] => word.isEmpty
  | c :: rest => word.isPrefixOf (c :: rest) || occursIn word rest

/-- Extra flags for the builders whose name contains a fragment. -/
structure Override where
  fragment : String
  flags : List String
  deriving Repr, DecidableEq

namespace Override

def table : List Override :=
  [⟨"GalaxyNexus", ["--match", "~DeferredSurfaceCopy"]⟩,
   ⟨"Nexus4", ["--config", "defaults", "MSAA4"]⟩,
   ⟨"NexusS", ["--match", "~DeferredSurfaceCopy"]⟩,
   ⟨"Valgrind", ["--runOnce", "true", "--config", "8888", "GPU", "NONRENDERING"]⟩,
   ⟨"Perf-Win8-ShuttleA-GTX660-x86-Release", ["--match", "~giantdashline"]⟩]

def appliesTo (o : Override) (builder : String) : Bool :=
  occursIn o.fragment.toList builder.toList

/-- The overrides that apply to a builder, in table order. -/
def matching (builder : String) : List Override := table.filter (·.appliesTo builder)

def flagsFor (builder : String) : List String := (matching builder).flatMap (·.flags)

@[simp] theorem flatMap_flags_matching (builder : String) :
    (matching builder).flatMap (·.flags) = flagsFor builder := rfl

end Override

end BenchJob
