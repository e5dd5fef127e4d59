import TripleSlash.Datum.Plain
import TripleSlash.Settings.Basic

namespace TripleSlash

def LineEnding.ofDatum? (d : Datum) : Option LineEnding := d.oneOf? LineEnding.all LineEnding.tag

namespace Phrases

def fieldNames : List String :=
  ["event_prefix", "task_return_lead", "task_return_trail", "task_cref", "generic_task_cref",
    "indexer_summary_tail", "indexer_returns", "constructor_lead", "destructor_lead"]

def toDatum (p : Phrases) : Datum :=
  .ofFields [("event_prefix", .text p.eventLead), ("task_return_lead", .text p.taskLead),
    ("task_return_trail", .text p.taskTrail), ("task_cref", .text p.taskCref),
    ("generic_task_cref", .text p.genericTaskCref),
    ("indexer_summary_tail", .text p.indexerObject), ("indexer_returns", .text p.indexerReturns),
    ("constructor_lead", .text p.constructorLead), ("destructor_lead", .text p.destructorLead)]

def ofDatum? (d : Datum) : Option Phrases := do
  let fs ← d.fields? fieldNames
  let phrase (name default : String) := Datum.orDefault? default Datum.text? (fs.lookup name)
  let std : Phrases := {}
  return {
    eventLead := ← phrase "event_prefix" std.eventLead
    taskLead := ← phrase "task_return_lead" std.taskLead
    taskTrail := ← phrase "task_return_trail" std.taskTrail
    taskCref := ← phrase "task_cref" std.taskCref
    genericTaskCref := ← phrase "generic_task_cref" std.genericTaskCref
    indexerObject := ← phrase "indexer_summary_tail" std.indexerObject
    indexerReturns := ← phrase "indexer_returns" std.indexerReturns
    constructorLead := ← phrase "constructor_lead" std.constructorLead
    destructorLead := ← phrase "destructor_lead" std.destructorLead }

end Phrases

namespace Settings

def toDatum (s : Settings) : Datum :=
  .ofFields [("line_ending", .text s.lineEnding.tag),
    ("awaitable_types", .list (s.awaitables.map .text)),
    ("inflect_method_verbs", .bool s.inflectVerbs), ("resources", s.phrases.toDatum)]

/-- Reads settings; a field that is missing has its standard value. -/
def ofDatum? (d : Datum) : Option Settings := do
  let fs ← d.fields? ["line_ending", "awaitable_types", "inflect_method_verbs", "resources"]
  let std : Settings := {}
  return {
    lineEnding := ← Datum.orDefault? std.lineEnding LineEnding.ofDatum? (fs.lookup "line_ending")
    awaitables := ← Datum.orDefault? std.awaitables Datum.texts? (fs.lookup "awaitable_types")
    inflectVerbs := ←
      Datum.orDefault? std.inflectVerbs Datum.bool? (fs.lookup "inflect_method_verbs")
    phrases := ← Datum.orDefault? std.phrases Phrases.ofDatum? (fs.lookup "resources") }

end Settings

end TripleSlash
