import FlockOs.Engagement
import Mathlib.Logic.Equiv.Basic

/-!
# Who shares an attendee key

The key is a digest of the session and one identity, joined by a bar: the member, or the
fingerprint of a visitor. Which of the two it was is not part of the text, and a bar in the
session is not told apart from the one that joins.
-/

namespace FlockOs.Engagement

open Lib

/-- The arguments of `attendee_key`. -/
structure Claimant where
  /-- The session. -/
  sessionId : String
  /-- The member, if there is one. -/
  memberId : Option String
  /-- The device. -/
  deviceFingerprint : String
deriving DecidableEq, Repr

namespace Claimant

/-- The member, or the device where there is no member. -/
def identity (claimant : Claimant) : String :=
  (truthy claimant.memberId).getD claimant.deviceFingerprint

/-- The call of `attendee_key`. -/
def key (crypto : Crypto) (claimant : Claimant) : Except Error String :=
  attendeeKey crypto claimant.sessionId claimant.memberId claimant.deviceFingerprint

/-- The same attendee: one session, and one member or two visitors with one fingerprint. -/
def Same (first second : Claimant) : Prop :=
  first.sessionId = second.sessionId ∧
    ((∃ member, truthy first.memberId = some member ∧ truthy second.memberId = some member) ∨
      (truthy first.memberId = none ∧ truthy second.memberId = none ∧
        first.deviceFingerprint = second.deviceFingerprint))

/-- Two claimants get one key only if they are the same attendee. -/
def ToldApart (crypto : Crypto) (first second : Claimant) : Prop :=
  ∀ key, first.key crypto = .ok key → second.key crypto = .ok key → first.Same second

/-- `attendee_key` takes the arguments: there is a session and an identity. -/
def Accepted (claimant : Claimant) : Prop :=
  claimant.sessionId ≠ "" ∧ claimant.identity ≠ ""

/-- A member, and a visitor of the session whose fingerprint is the member's id. -/
def Impersonated (first second : Claimant) : Prop :=
  first.sessionId = second.sessionId ∧ truthy first.memberId = some second.deviceFingerprint ∧
    truthy second.memberId = none

/-- The first session goes on, after the second one and a bar, as the second identity begins. -/
def Resplit (first second : Claimant) : Prop :=
  ∃ middle, first.sessionId = joinLast '|' second.sessionId middle ∧
    second.identity = joinLast '|' middle first.identity

/-- The arguments that share a key without being the same attendee. -/
def Confused (first second : Claimant) : Prop :=
  first.Impersonated second ∨ second.Impersonated first ∨ first.Resplit second ∨
    second.Resplit first

end Claimant

namespace Claimant

/-- The text that is digested. -/
def text (claimant : Claimant) : String := joinLast '|' claimant.sessionId claimant.identity

/-- Accepted arguments give the digest of their text. -/
theorem key_ok_iff {crypto : Crypto} {claimant : Claimant} {key : String} :
    claimant.key crypto = .ok key ↔
      claimant.Accepted ∧ crypto.sha256Hex claimant.text = key := by
  have digested : claimant.key crypto =
      if claimant.sessionId = "" then
        .error (.engagement "session_id is required to derive attendee_key")
      else if claimant.identity = "" then
        .error (.engagement
          "either member_id or device_fingerprint is required to derive attendee_key")
      else .ok (crypto.sha256Hex claimant.text) := rfl
  rw [digested, Accepted]
  by_cases session : claimant.sessionId = ""
  · simp [session]
  · by_cases named : claimant.identity = ""
    · simp [session, named]
    · simp [session, named]

/-- One identity in one session is one attendee, or a member and a visitor. -/
theorem same_or_impersonated {first second : Claimant}
    (session : first.sessionId = second.sessionId) (identities : first.identity = second.identity) :
    first.Same second ∨ first.Impersonated second ∨ second.Impersonated first := by
  rw [identity, identity] at identities
  cases member : truthy first.memberId with
  | none =>
    cases member' : truthy second.memberId with
    | none =>
      rw [member, member'] at identities
      exact Or.inl ⟨session, Or.inr ⟨member, member', identities⟩⟩
    | some other =>
      rw [member, member'] at identities
      have names : other = first.deviceFingerprint := identities.symm
      exact Or.inr (Or.inr ⟨session.symm, names ▸ member', member⟩)
  | some name =>
    cases member' : truthy second.memberId with
    | none =>
      rw [member, member'] at identities
      have names : name = second.deviceFingerprint := identities
      exact Or.inr (Or.inl ⟨session, names ▸ member, member'⟩)
    | some other =>
      rw [member, member'] at identities
      have names : other = name := identities.symm
      exact Or.inl ⟨session, Or.inl ⟨name, member, names ▸ member'⟩⟩

/-- A member and a visitor with the member's id have one text. -/
theorem Impersonated.text_eq {first second : Claimant} (impersonated : first.Impersonated second) :
    first.text = second.text := by
  obtain ⟨session, member, visitor⟩ := impersonated
  rw [text, text, identity, identity, session, member, visitor]
  rfl

/-- A member and a visitor are not one attendee. -/
theorem Impersonated.not_same {first second : Claimant} (impersonated : first.Impersonated second) :
    ¬first.Same second := by
  obtain ⟨_, member, visitor⟩ := impersonated
  rintro ⟨_, ⟨name, _, other⟩ | ⟨nobody, _, _⟩⟩
  · rw [visitor] at other
    cases other
  · rw [member] at nobody
    cases nobody

/-- A bar that is read in another place gives one text. -/
theorem Resplit.text_eq {first second : Claimant} (resplit : first.Resplit second) :
    first.text = second.text :=
  joinLast_eq_iff.mpr (Or.inr (Or.inl resplit))

/-- The sessions of a text that is read in two ways differ. -/
theorem Resplit.not_same {first second : Claimant} (resplit : first.Resplit second) :
    first.sessionId ≠ second.sessionId := by
  obtain ⟨middle, longer, _⟩ := resplit
  intro same
  have lengths := congrArg (List.length ∘ String.toList) (same.symm.trans longer)
  simp only [Function.comp, toList_joinLast, List.length_append, List.length_cons] at lengths
  omega

/-- The same attendee is the same the other way round. -/
theorem Same.symm {first second : Claimant} (same : first.Same second) : second.Same first := by
  obtain ⟨session, attendee⟩ := same
  refine ⟨session.symm, attendee.imp ?_ ?_⟩
  · rintro ⟨member, left, right⟩
    exact ⟨member, right, left⟩
  · rintro ⟨left, right, device⟩
    exact ⟨right, left, device.symm⟩

/-- Claimants that are confused have one text and are not one attendee. -/
theorem Confused.spec {first second : Claimant} (confused : first.Confused second) :
    first.text = second.text ∧ ¬first.Same second := by
  rcases confused with impersonated | impersonated | resplit | resplit
  · exact ⟨impersonated.text_eq, impersonated.not_same⟩
  · exact ⟨impersonated.text_eq.symm, fun same => impersonated.not_same same.symm⟩
  · exact ⟨resplit.text_eq, fun same => resplit.not_same same.1⟩
  · exact ⟨resplit.text_eq.symm, fun same => resplit.not_same same.1.symm⟩

/-- Claimants with one text are one attendee or confused. -/
theorem same_or_confused {first second : Claimant} (texts : first.text = second.text) :
    first.Same second ∨ first.Confused second := by
  rcases joinLast_eq_iff.mp texts with ⟨session, identities⟩ | resplit | resplit
  · rcases same_or_impersonated session identities with same | impersonated | impersonated
    · exact Or.inl same
    · exact Or.inr (Or.inl impersonated)
    · exact Or.inr (Or.inr (Or.inl impersonated))
  · exact Or.inr (Or.inr (Or.inr (Or.inl resplit)))
  · exact Or.inr (Or.inr (Or.inr (Or.inr resplit)))

/-- Where digests differ, two claimants are told apart unless both are accepted and they are
confused. -/
theorem toldApart_iff {crypto : Crypto} (injective : Function.Injective crypto.sha256Hex)
    (first second : Claimant) :
    first.ToldApart crypto second ↔
      ¬(first.Accepted ∧ second.Accepted ∧ first.Confused second) := by
  constructor
  · rintro apart ⟨accepted, accepted', confused⟩
    have ⟨texts, different⟩ := confused.spec
    have key : first.key crypto = .ok (crypto.sha256Hex first.text) :=
      key_ok_iff.mpr ⟨accepted, rfl⟩
    have key' : second.key crypto = .ok (crypto.sha256Hex first.text) :=
      key_ok_iff.mpr ⟨accepted', congrArg crypto.sha256Hex texts.symm⟩
    exact different (apart _ key key')
  · intro unconfused key derived derived'
    have ⟨accepted, digest⟩ := key_ok_iff.mp derived
    have ⟨accepted', digest'⟩ := key_ok_iff.mp derived'
    have texts := injective (digest.trans digest'.symm)
    exact (same_or_confused texts).resolve_right fun confused =>
      unconfused ⟨accepted, accepted', confused⟩

end Claimant

/-- The digests of two texts of the session; the digests and their texts change places, and any
other text is its own digest. -/
def twoDigests : Crypto where
  sha256Hex := (Equiv.swap "ENG-1|ann"
      "ef1d26d963e2cec3ed480e002bc2a3d779519cde748ab1cd3c6e0c37d49821ca").trans
    (Equiv.swap "ENG-1|phone" "ee0834c57cb24e1b720d51553a324c7123765e3b29c8ec45839e7ec356260a96")
  hmacHex _ payload := payload

/-- Ann, a member. -/
def annMember : Claimant := ⟨"ENG-1", some "ann", "phone"⟩

/-- A visitor, whose client sends a fingerprint. -/
def visitor (deviceFingerprint : String) : Claimant := ⟨"ENG-1", none, deviceFingerprint⟩

/-- Ann and a visitor on her device are told apart. -/
theorem phone_toldApart : annMember.ToldApart twoDigests (visitor "phone") := by
  apply (Claimant.toldApart_iff (Equiv.injective _) annMember (visitor "phone")).mpr
  rintro ⟨_, _, confused⟩
  have texts := confused.spec.1
  exact absurd texts (by decide)

/-- A visitor whose fingerprint is Ann's id gets Ann's key. -/
theorem ann_impersonated : Function.Injective twoDigests.sha256Hex ∧
    ¬annMember.ToldApart twoDigests (visitor "ann") := by
  refine ⟨Equiv.injective _, fun apart => ?_⟩
  have same := apart "ef1d26d963e2cec3ed480e002bc2a3d779519cde748ab1cd3c6e0c37d49821ca"
    (by decide +kernel) (by decide +kernel)
  have impersonated : annMember.Impersonated (visitor "ann") := ⟨rfl, rfl, rfl⟩
  exact impersonated.not_same same

end FlockOs.Engagement
