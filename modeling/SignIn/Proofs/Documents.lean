import SignIn.Flight.Source
import SignIn.Proofs.Json.Decoder
import SignIn.Request.Settings

namespace SignIn

open Json (Reads)

private theorem reads_optionalText (text : Option String) :
    Reads (Json.optional Json.text) 0 (optionalText text) text := by
  cases text with
  | none => exact Json.reads_optional_none Json.text
  | some text => exact Json.reads_optional_text text

private theorem RequestSettings.reads (s : RequestSettings) : Reads record.decoder 1 s.document s :=
  Json.Record.reads record
    [(Json.reads_text s.redirectUri).part "redirect_uri" .required fun redirectUri s => { s with redirectUri },
     (reads_optionalText s.sentState).part "request_state" .defaulted fun sentState s => { s with sentState }]
    rfl (by decide)

private theorem RequestLabel.reads (l : RequestLabel) : Reads record.decoder 1 l.document l :=
  Json.Record.reads record
    [(Json.reads_text l.correlationId).part "correlation_id" .required fun correlationId _ => ⟨correlationId⟩]
    rfl (by decide)

private theorem Presentation.reads (p : Presentation) : Reads record.decoder 1 p.document p :=
  Json.Record.reads record
    [(reads_optionalText p.anchor).part "anchor" .optional fun anchor p => { p with anchor },
     (Json.reads_flag p.ephemeral).part "prefers_ephemeral_session" .required fun ephemeral p =>
       { p with ephemeral }]
    rfl (by decide)

namespace StaticFlights

private theorem reads (f : StaticFlights) : Reads record.decoder 2 f.document f :=
  Json.Record.reads record
    [(Json.reads_mapOf Json.reads_flag f.flags).part "bools" .defaulted fun flags f => { f with flags },
     (Json.reads_mapOf Json.reads_text f.texts).part "strings" .defaulted fun texts f => { f with texts }]
    rfl (by decide)

private theorem decode_document (f : StaticFlights) : decode f.document.render = .ok f := by
  rw [decode, Json.decode_render f.reads (by decide)]
  rfl

private theorem source_eq {f g : StaticFlights} (hflags : f.flags.get? = g.flags.get?)
    (htexts : f.texts.get? = g.texts.get?) :
    f.source = g.source := by
  rw [source, source, hflags, htexts]

end StaticFlights

/-- A document is decoded to the value that it was written for. Flights are in no order of their own: in whichever
order they are written, what is decoded has the same flags and the same texts, and answers every key alike. Settings
pass or fail their check as they did before. -/
theorem documents_are_read_back :
    (∀ f written : StaticFlights, written.flags.entries.Perm f.flags.entries →
      written.texts.entries.Perm f.texts.entries →
      ∃ read, StaticFlights.decode written.document.render = .ok read ∧
        (∀ key, read.flags.get? key = f.flags.get? key) ∧ (∀ key, read.texts.get? key = f.texts.get? key) ∧
        (∀ key, read.source.flag key = f.source.flag key) ∧ ∀ key, read.source.text key = f.source.text key) ∧
    (∀ s : RequestSettings, ∃ read, Json.decode RequestSettings.record.decoder s.document.render = .ok read ∧
      read = s ∧ read.check = s.check) ∧
    (∀ l : RequestLabel, Json.decode RequestLabel.record.decoder l.document.render = .ok l) ∧
    ∀ p : Presentation, Json.decode Presentation.record.decoder p.document.render = .ok p := by
  refine ⟨fun f written hflags htexts => ⟨written, written.decode_document, ?_⟩,
    fun s => ⟨s, Json.decode_render s.reads (by decide), rfl, rfl⟩,
    fun l => Json.decode_render l.reads (by decide), fun p => Json.decode_render p.reads (by decide)⟩
  have hflags := TextMap.get?_eq_of_perm hflags
  have htexts := TextMap.get?_eq_of_perm htexts
  have hsource := StaticFlights.source_eq hflags htexts
  exact ⟨congrFun hflags, congrFun htexts, fun key => by rw [hsource], fun key => by rw [hsource]⟩

theorem documents_are_read_back_in_another_order :
    let f := ((StaticFlights.empty.withFlag "a\"b\\" true).withFlag "é\n" false).withText "\x01/" "𝄞\x7f\t"
    let written := ((StaticFlights.empty.withFlag "é\n" false).withFlag "a\"b\\" true).withText "\x01/" "𝄞\x7f\t"
    written ≠ f ∧ written.document.render =
      "\x7b\"bools\":\x7b\"é\\n\":false,\"a\\\"b\\\\\":true\x7d,\"strings\":\x7b\"\\u0001/\":\"𝄞\x7f\\t\"\x7d\x7d" ∧
    ∃ read, StaticFlights.decode written.document.render = .ok read ∧ read.source.flag "a\"b\\" = true ∧
      read.source.text "\x01/" = some "𝄞\x7f\t" := by
  intro f written
  obtain ⟨read, hread, -, -, hflag, htext⟩ :=
    documents_are_read_back.1 f written (List.Perm.swap _ _ []) (List.Perm.refl _)
  refine ⟨by decide +kernel, by decide +kernel, read, hread, ?_, ?_⟩
  · rw [hflag]
    decide +kernel
  · rw [htext]
    decide +kernel

end SignIn
