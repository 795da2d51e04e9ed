import FlockOs.Lib.Decimals
import FlockOs.Verif.TicketSession
import Mathlib.Logic.Equiv.Basic

/-!
# Verified tickets are issued tickets

The payload of a ticket joins its session, its attendee key and its two times by bars. Read from
the end it has one reading only, so a ticket that is verified agrees with one that was issued in
all that was signed.
-/

namespace FlockOs.Engagement

open Lib

/-- The ticket was issued under the secret, for some session and attendee. -/
def IssuedUnder (crypto : Crypto) (secret : String) (ticket : SessionTicket) : Prop :=
  ∃ session memberId deviceFingerprint time ttlSeconds,
    issueSessionTicket crypto session memberId deviceFingerprint secret time ttlSeconds = .ok ticket

/-- A signature that is the digest of some text under the secret is that of a ticket issued. -/
def NotForged (crypto : Crypto) (secret : String) (issued : Set SessionTicket)
    (signature : String) : Prop :=
  (∃ payload, crypto.hmacHex secret payload = signature) →
    ∃ ticket ∈ issued, ticket.signature = signature

/-- Two times that are rounded to the same microsecond. -/
structure SameMicrosecond (time time' : Rat) : Prop where
  rounded : millionths time = millionths time'
  near : |time - time'| ≤ 1 / 1000000

/-- The ticket presented agrees with the one issued in all that is signed. -/
structure AgreesWith (issued presented : SessionTicket) : Prop where
  session : issued.sessionId = presented.sessionId
  key : issued.attendeeKey = presented.attendeeKey
  issuedAt : SameMicrosecond issued.issuedAt presented.issuedAt
  expiresAt : SameMicrosecond issued.expiresAt presented.expiresAt

/-- Times with one text are rounded to the same microsecond. -/
theorem SameMicrosecond.of_fixed6 {time time' : Rat} (same : fixed6 time = fixed6 time') :
    SameMicrosecond time time' :=
  ⟨millionths_of_fixed6 same, abs_sub_le_of_millionths (millionths_of_fixed6 same)⟩

/-- A payload whose session and attendee key have no bar is read in one way only. -/
theorem agreesWith_of_payload {issued presented : SessionTicket}
    (same : issued.payload = presented.payload) (session : '|' ∉ issued.sessionId.toList)
    (key : '|' ∉ issued.attendeeKey.toList) : AgreesWith issued presented := by
  obtain ⟨toIssued, expires⟩ := joinLast_inj same (fixed6_clean _) (fixed6_clean _)
  obtain ⟨toKey, issues⟩ := joinLast_inj toIssued (fixed6_clean _) (fixed6_clean _)
  -- A bar in a field presented would be a second one among the two fields issued.
  rcases joinLast_eq_iff.mp toKey with ⟨sessions, keys⟩ | ⟨middle, inside, _⟩ | ⟨middle, _, inside⟩
  · exact ⟨sessions, keys, .of_fixed6 issues, .of_fixed6 expires⟩
  · rw [inside, toList_joinLast] at session
    exact absurd (List.mem_append_right _ List.mem_cons_self) session
  · rw [inside, toList_joinLast] at key
    exact absurd (List.mem_append_right _ List.mem_cons_self) key

/-- A signature is the digest of the payload. -/
theorem signTicket_ok {crypto : Crypto} {ticket : SessionTicket} {secret : String}
    (signed : signTicket crypto ticket.sessionId ticket.attendeeKey ticket.issuedAt
      ticket.expiresAt secret = .ok ticket.signature) :
    crypto.hmacHex secret ticket.payload = ticket.signature := by
  rw [signTicket] at signed
  split at signed
  · cases signed
  · exact Except.ok.inj signed

/-- Where no signature is forged and digests differ, a ticket that is verified agrees with a ticket
that was issued, and has not expired. -/
theorem verifyTicket_sound {crypto : Crypto} {secret : String} {issued : Set SessionTicket}
    (genuine : ∀ ticket ∈ issued, IssuedUnder crypto secret ticket)
    (clean : ∀ ticket ∈ issued, '|' ∉ ticket.sessionId.toList) (hex : crypto.Hexadecimal)
    (injective : Function.Injective (crypto.hmacHex secret)) {presented : SessionTicket}
    (unforged : NotForged crypto secret issued presented.signature) {time : Rat}
    (verified : verifyTicket crypto presented secret time = .ok true) :
    (∃ ticket ∈ issued, AgreesWith ticket presented) ∧ time < presented.expiresAt := by
  have ⟨signed, live⟩ := verifyTicket_passes verified
  have digest := signTicket_ok signed
  have ⟨ticket, member, signatures⟩ := unforged ⟨presented.payload, digest⟩
  have ⟨session, memberId, deviceFingerprint, _, _, made⟩ := genuine ticket member
  have authentic := issueSessionTicket_ok made
  have payloads : ticket.payload = presented.payload := by
    apply injective
    rw [signTicket_ok authentic.signed, digest, signatures]
  have key : '|' ∉ ticket.attendeeKey.toList := by
    rw [attendeeKey_ok authentic.key]
    exact fun bar => absurd (hex _ _ bar) (by decide)
  refine ⟨⟨ticket, member, agreesWith_of_payload payloads (clean ticket member) key⟩, ?_⟩
  rw [SessionTicket.isExpired, decide_eq_false_iff_not] at live
  exact not_le.mp live

/-- The digests of Ann's ticket. The signature and its text change places, and any other text is
its own digest. -/
def annCrypto : Crypto where
  sha256Hex := sampleSettings.crypto.sha256Hex
  hmacHex _ := Equiv.swap annTicket.payload annTicket.signature

/-- Ann's ticket with a time of issue that is a tenth of a microsecond late. -/
def lateTicket : SessionTicket := { annTicket with issuedAt := 100 + 1 / 10000000 }

/-- Ann's ticket is issued. -/
theorem annTicket_issued : IssuedUnder annCrypto "test-secret" annTicket :=
  ⟨campSession "ENG-1", some "ann", "phone", 100, defaultTicketTtlSeconds, by decide +kernel⟩

/-- The late ticket is verified, and agrees with Ann's to the microsecond. -/
theorem lateTicket_sound :
    (∃ ticket ∈ ({annTicket} : Set SessionTicket), AgreesWith ticket lateTicket) ∧
      101 < lateTicket.expiresAt := by
  have verified : verifyTicket annCrypto lateTicket "test-secret" 101 = .ok true := by decide +kernel
  have hex : annCrypto.Hexadecimal := sampleSettings_hexadecimal
  refine verifyTicket_sound ?_ ?_ hex (Equiv.injective _) ?_ verified
  · rintro ticket rfl
    exact annTicket_issued
  · rintro ticket rfl
    decide
  · exact fun _ => ⟨annTicket, rfl, rfl⟩

end FlockOs.Engagement
