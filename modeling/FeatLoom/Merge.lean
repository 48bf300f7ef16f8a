import FeatLoom.Discovery
import FeatLoom.MergePolicy

/-!
# Merging snapshots

The snapshots of a module are merged in the order of their versions, those of one version in the
order in which they were found. Dependencies on modules that were not found are dropped.
-/

namespace FeatLoom

namespace Module

def mergeOver (m snapshot : Module) : Module :=
  { m with
    id := mergeSet m.id snapshot.id
    version := mergeSet m.version snapshot.version
    descriptions := mergeSet m.descriptions snapshot.descriptions
    feats := mergeSet m.feats snapshot.feats
    dependencies := mergeSet m.dependencies snapshot.dependencies
    stats := mergeKeys m.stats snapshot.stats
    lists := mergeNested m.lists snapshot.lists }

/-- Snapshots by version; equal versions keep their order. -/
def byVersion (snapshots : List Module) : List Module :=
  snapshots.mergeSort fun a b => a.version.number ≤ b.version.number

def ofSnapshots (name : String) (snapshots : List Module) : Module :=
  (byVersion snapshots).foldl mergeOver { name := some name }

def trimDependencies (m : Module) (known : List String) : Module :=
  { m with dependencies := m.dependencies.filter fun dependency =>
      (dependency.properName?.map known.contains).getD false }

end Module

namespace Snapshots

def mergeEach (snapshots : Snapshots) : OrderedMap String Module :=
  (snapshots.filter fun _ found => !found.isEmpty).mapValues Module.ofSnapshots

/-- Merges the snapshots of every module; each keeps its dependencies on the others. -/
def merge (snapshots : Snapshots) : OrderedMap String Module :=
  let merged := snapshots.mergeEach
  merged.mapValues fun _ m => m.trimDependencies merged.keys

end Snapshots

end FeatLoom
