import Mathlib.Data.Finset.Card
import SignIn.Callback.Echo
import SignIn.Proofs.Base64.Digits

namespace SignIn

private theorem checkEcho_eq_ok_iff {received sent : String} :
    checkEcho (some received) sent = .ok () ↔ received ∈ acceptedEchoes sent := by
  by_cases hechoes : received ∈ acceptedEchoes sent <;> simp [checkEcho, hechoes]

private theorem checkEcho_eq_faulty {received sent : String} (hechoes : received ∉ acceptedEchoes sent) :
    checkEcho (some received) sent = .error (.faulty "state did not match") :=
  if_neg hechoes

private theorem mem_acceptedEchoes_iff {received sent : String} :
    received ∈ acceptedEchoes sent ↔
      received = sent ∨ ∃ a, received.toList = Base64.encode a (Utf8.bytesOf sent) := by
  have htext (text : List Char) : received = String.ofList text ↔ received.toList = text := by
    rw [← String.toList_inj, String.toList_ofList]
  rw [acceptedEchoes, List.mem_cons, List.mem_cons, List.mem_singleton, htext, htext]
  refine or_congr_right ⟨?_, ?_⟩
  · rintro (hurlSafe | hstandard)
    · exact ⟨_, hurlSafe⟩
    · exact ⟨_, hstandard⟩
  · rintro ⟨a, hencode⟩
    cases a with
    | standard => exact .inr hencode
    | urlSafe => exact .inl hencode

private theorem checkEcho_eq_ok_iff_decode {received sent : String} :
    checkEcho (some received) sent = .ok () ↔
      received = sent ∨ ∃ a, Base64.decode a .refused received.toList = .ok (Utf8.bytesOf sent) := by
  simp only [checkEcho_eq_ok_iff, mem_acceptedEchoes_iff, Base64.decode_refused_eq_ok_iff]

private theorem Utf8.bytesOf_inj {text other : String} : bytesOf text = bytesOf other ↔ text = other := by
  rw [bytesOf, bytesOf, encode_inj, String.toList_inj]

/-- The spelling of another state is an echo only where it happens to be the state itself. -/
theorem encode_mem_acceptedEchoes_iff {a : Base64.Alphabet} {other sent : String} :
    String.ofList (Base64.encode a (Utf8.bytesOf other)) ∈ acceptedEchoes sent ↔
      other = sent ∨ String.ofList (Base64.encode a (Utf8.bytesOf other)) = sent := by
  rw [mem_acceptedEchoes_iff, String.toList_ofList, or_comm]
  refine or_congr_left ⟨?_, ?_⟩
  · rintro ⟨a', hencode⟩
    exact Utf8.bytesOf_inj.1 (Base64.eq_of_encode_eq hencode)
  · rintro rfl
    exact ⟨a, rfl⟩

/-- What came back for a state is accepted exactly if it is the state or is read, strictly and in either alphabet, as
the UTF-8 of the state. It is faulty otherwise. To be read so it has to be written in the alphabet without padding,
and with zeros in all bits that no byte uses. So a state has three echoes at most, and the spelling of another state
is none of them unless it is the state itself. -/
theorem checkEcho_compares_decoded (sent : String) :
    (∀ received, (checkEcho (some received) sent = .ok () ↔
        received = sent ∨ ∃ a, Base64.decode a .refused received.toList = .ok (Utf8.bytesOf sent)) ∧
      (checkEcho (some received) sent = .ok () ∨
        checkEcho (some received) sent = .error (.faulty "state did not match"))) ∧
    (∀ a text bytes, Base64.decode a .refused text = .ok bytes ↔
      ∃ values spare, Base64.Denotes a text bytes values spare) ∧
    (∃ echoes : Finset String, echoes.card ≤ 3 ∧
      ∀ received, checkEcho (some received) sent = .ok () ↔ received ∈ echoes) ∧
    ∀ a other, checkEcho (some (String.ofList (Base64.encode a (Utf8.bytesOf other)))) sent = .ok () ↔
      other = sent ∨ String.ofList (Base64.encode a (Utf8.bytesOf other)) = sent := by
  refine ⟨fun received => ⟨checkEcho_eq_ok_iff_decode, ?_⟩,
    fun a text bytes => Base64.decode_refused_eq_ok_iff_denotes, ⟨(acceptedEchoes sent).toFinset, ?_, ?_⟩,
    fun a other => checkEcho_eq_ok_iff.trans encode_mem_acceptedEchoes_iff⟩
  · by_cases hechoes : received ∈ acceptedEchoes sent
    · exact .inl (checkEcho_eq_ok_iff.2 hechoes)
    · exact .inr (checkEcho_eq_faulty hechoes)
  · exact List.toFinset_card_le (acceptedEchoes sent)
  · exact fun received => checkEcho_eq_ok_iff.trans List.mem_toFinset.symm

end SignIn
