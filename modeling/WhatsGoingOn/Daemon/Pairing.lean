import WhatsGoingOn.Library.Bytes

/-!
# Pairing codes and client credentials

The daemon stores digests only: of the pairing code that it shows locally, and
of the secret that it hands to a paired client.  What it draws at random is an
argument here, and so are the clock and the digest.
-/

namespace WhatsGoingOn
namespace Daemon

open Bytes

/-- `PAIRING_CODE_DIGITS`. -/
def pairingCodeDigits : Nat := 6

/-- `PAIRING_TTL_SECONDS`. -/
def pairingTtlSeconds : Int := 180

/-- `CLIENT_CREDENTIAL_TTL_SECONDS`: thirty days. -/
def clientCredentialTtlSeconds : Int := 60 * 60 * 24 * 30

/-- A pairing code as the daemon remembers it. -/
structure PairingRecord where
  codeSha256Base64url : String
  expiresAtUnix : Int
  deriving DecidableEq, Repr

/-- A pairing code and its record. -/
structure PairingCode where
  code : String
  record : PairingRecord
  deriving DecidableEq, Repr

/-- The record of a paired client. -/
structure ClientCredentialRecord where
  clientId : String
  label : String
  secretSha256Base64url : String
  createdAtUnix : Int
  expiresAtUnix : Int
  deriving DecidableEq, Repr

/-- The paired clients, as the credential file holds them. -/
structure ClientCredentials where
  clients : List ClientCredentialRecord
  deriving DecidableEq, Repr

/-- A secret issued to a client, and the record that is kept of it. -/
structure IssuedClientSecret where
  clientId : String
  clientSecret : String
  record : ClientCredentialRecord
  deriving DecidableEq, Repr

/-- Comparison that looks at every byte of lists of one length. -/
def constantTimeEq (a b : List UInt8) : Bool :=
  if a.length ≠ b.length then false
  else
    (a.zip b).foldl (fun diff bytes => diff ||| (bytes.1 ^^^ bytes.2)) 0 == 0

theorem foldl_diff_eq_zero_iff
    (pairs : List (UInt8 × UInt8)) (diff : UInt8) :
    pairs.foldl (fun diff bytes => diff ||| (bytes.1 ^^^ bytes.2)) diff = 0 ↔
      diff = 0 ∧ ∀ bytes ∈ pairs, bytes.1 = bytes.2 := by
  induction pairs generalizing diff with
  | nil => simp
  | cons bytes pairs inductionHypothesis =>
      rw [List.foldl_cons, inductionHypothesis, UInt8.or_eq_zero_iff,
        UInt8.xor_eq_zero_iff, List.forall_mem_cons, and_assoc]

/-- The comparison tells texts apart as equality does. -/
theorem constantTimeEq_iff (a b : List UInt8) :
    constantTimeEq a b = true ↔ a = b := by
  unfold constantTimeEq
  split
  · rename_i differ
    simp only [Bool.false_eq_true, false_iff]
    intro equal
    exact differ (congrArg List.length equal)
  · rename_i same
    rw [beq_iff_eq, foldl_diff_eq_zero_iff]
    have lengths : a.length = b.length := not_not.mp same
    constructor
    · rintro ⟨-, agree⟩
      apply List.ext_getElem lengths
      intro index inFirst inSecond
      apply agree (a[index], b[index])
      apply List.mem_iff_getElem.mpr
      exact ⟨index, by simp [inFirst, inSecond], by simp⟩
    · rintro rfl
      refine ⟨rfl, ?_⟩
      intro bytes member
      obtain ⟨index, inside, rfl⟩ := List.mem_iff_getElem.mp member
      simp

section Digest

variable (sha256Base64url : List UInt8 → String)

/-- `create_pairing_code`, for the number drawn at random. -/
def createPairingCode (drawn : Nat) (nowUnix : Int) : PairingCode :=
  let digits := toString (drawn % 1000000)
  let code :=
    String.ofList (List.replicate (pairingCodeDigits - digits.length) '0') ++
      digits
  { code := code
    record := {
      codeSha256Base64url := sha256Base64url (utf8 code)
      expiresAtUnix := nowUnix + pairingTtlSeconds } }

/-- The record has not expired and its digest is that of the code. -/
def verifyPairingCode
    (record : PairingRecord) (code : String) (nowUnix : Int) : Bool :=
  if record.expiresAtUnix ≤ nowUnix then false
  else
    constantTimeEq (utf8 record.codeSha256Base64url)
      (utf8 (sha256Base64url (utf8 code)))

/-- A credential lives for its full time from now on. -/
def clientCredentialExpiresAt (nowUnix : Int) : Int :=
  nowUnix + clientCredentialTtlSeconds

/-- The secret with the record that is kept of it, which holds the digest only. -/
def issueClientSecretForClientId
    (clientId clientSecret label : String)
    (createdAtUnix nowUnix : Int) : IssuedClientSecret :=
  { clientId := clientId
    clientSecret := clientSecret
    record := {
      clientId := clientId
      label := label
      secretSha256Base64url := sha256Base64url (utf8 clientSecret)
      createdAtUnix := createdAtUnix
      expiresAtUnix := clientCredentialExpiresAt nowUnix } }

/-- `issue_client_secret`, for the id and the secret drawn at random. -/
def issueClientSecret
    (clientId clientSecret label : String)
    (nowUnix : Int) : IssuedClientSecret :=
  issueClientSecretForClientId sha256Base64url clientId clientSecret label
    nowUnix nowUnix

/-- `reissue_client_secret`, for the secret drawn at random. -/
def reissueClientSecret
    (record : ClientCredentialRecord)
    (clientSecret label : String)
    (nowUnix : Int) : IssuedClientSecret :=
  issueClientSecretForClientId sha256Base64url record.clientId clientSecret
    label record.createdAtUnix nowUnix

/-- Only the time of expiry moves. -/
def renewClientCredential
    (record : ClientCredentialRecord) (nowUnix : Int) :
    ClientCredentialRecord :=
  { record with expiresAtUnix := clientCredentialExpiresAt nowUnix }

/-- The record holds the digest of the secret that is presented. -/
def verifyClientSecret
    (record : ClientCredentialRecord) (presented : String) : Bool :=
  constantTimeEq (utf8 record.secretSha256Base64url)
    (utf8 (sha256Base64url (utf8 presented)))

/-- The credential is live and the secret is its own. -/
def verifyClientCredential
    (record : ClientCredentialRecord) (presented : String) (nowUnix : Int) :
    Bool :=
  decide (nowUnix < record.expiresAtUnix) &&
    verifyClientSecret sha256Base64url record presented

variable {sha256Base64url}

/-- The record is live and its digest is that of the code. -/
theorem verifyPairingCode_iff
    {record : PairingRecord} {code : String} {nowUnix : Int} :
    verifyPairingCode sha256Base64url record code nowUnix = true ↔
      nowUnix < record.expiresAtUnix ∧
        record.codeSha256Base64url = sha256Base64url (utf8 code) := by
  unfold verifyPairingCode
  split
  · rename_i expired
    simp [expired]
  · rename_i active
    rw [constantTimeEq_iff, utf8_injective.eq_iff]
    simp [not_le.mp active]

theorem verifyClientCredential_iff
    {record : ClientCredentialRecord} {presented : String} {nowUnix : Int} :
    verifyClientCredential sha256Base64url record presented nowUnix = true ↔
      nowUnix < record.expiresAtUnix ∧
        record.secretSha256Base64url = sha256Base64url (utf8 presented) := by
  unfold verifyClientCredential verifyClientSecret
  rw [Bool.and_eq_true, decide_eq_true_iff, constantTimeEq_iff,
    utf8_injective.eq_iff]

/-- A pairing code passes its own check for three minutes. -/
theorem verifyPairingCode_createPairingCode
    (drawn : Nat) (createdAtUnix nowUnix : Int) :
    verifyPairingCode sha256Base64url
        (createPairingCode sha256Base64url drawn createdAtUnix).record
        (createPairingCode sha256Base64url drawn createdAtUnix).code
        nowUnix = true ↔
      nowUnix < createdAtUnix + pairingTtlSeconds := by
  rw [verifyPairingCode_iff]
  simp [createPairingCode]

end Digest

end Daemon
end WhatsGoingOn
