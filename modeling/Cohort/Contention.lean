import Cohort.Operation

-- Requests that meet: each of a list of requests is done between the look and the write of the one before it.
namespace Cohort

structure Contender where
  key : RawText
  body : Json

namespace Contention

def quietly (o : Outcome α) : Outcome Unit := o.map fun _ => ()

def assign (workspace : RawText) (now : Moment) : List Contender → Contender → Store → Outcome (Option Decision)
  | rivals, c, s =>
    match DecisionRequest.form.check c.body with
    | .error complaints => (.error (.refused complaints), s)
    | .ok request =>
      match workspace, c.key with
      | .whole workspace, .whole key =>
        let visit : Visit := ⟨workspace, now, request.subject, request.attributes⟩
        match Garbled.namesIn Garbled.identifierNames c.body, rivals with
        | [], [] => Decision.assign visit key s
        | [], rival :: rest => Decision.assignAmid visit key (fun s => quietly (assign workspace now rest rival s)) s
        | garbled, _ => (Garbled.assign visit garbled key s, s)
      | _, _ => (.error .halfCharacter, s)

def record (workspace : RawText) (now : Moment) : List Contender → Contender → Store → Outcome Bool
  | rivals, c, s =>
    match ConversionReport.form.check c.body with
    | .error complaints => (.error (.refused complaints), s)
    | .ok report =>
      let notice (workspace : String) : Conversion.Notice := ⟨workspace, now, report⟩
      match workspace, c.key with
      | .whole workspace, .whole key =>
        match Garbled.namesIn Garbled.identifierNames c.body, rivals with
        | [], [] => Conversion.record (notice workspace) key s
        | [], rival :: rest =>
          Conversion.recordAmid (notice workspace) key (fun s => quietly (record workspace now rest rival s)) s
        | _, _ => (Garbled.convert workspace key s, s)
      | _, _ => (.error (Operation.lost (.convert "" report)), s)

end Contention
end Cohort
