import WebAuthn.Cose.Key
import WebAuthn.Proofs.Acceptance.Check

/-!
# How reading a credential public key fails

A data item that is no usable key makes the attestation object around it invalid, whatever is wrong with it.

* `Cose.Key.failsOnlyWith_ofCbor`, `failsOnlyWith_decode` — the one failure of reading a key, from one lemma for each
  step of the reader.
-/

namespace WebAuthn.Cose

open Audited

variable {α : Type} {map : Parameters}

theorem failsOnlyWith_malformedKey (reason : String) :
    FailsOnlyWith .invalidAttestationObject (malformedKey reason : Audited α) :=
  failsOnlyWith_refuseWith _ _

theorem failsOnlyWith_orMalformedKey (value : Option α) (reason : String) :
    FailsOnlyWith .invalidAttestationObject (orMalformedKey value reason) := by
  unfold orMalformedKey
  split
  · exact failsOnlyWith_pure _
  · exact failsOnlyWith_malformedKey reason

/-! ### Key material -/

theorem failsOnlyWith_orRejectedKey (material : Option α) (kind reason : String) :
    FailsOnlyWith .invalidAttestationObject (orRejectedKey material kind reason) := by
  cases material with
  | some a => exact failsOnlyWith_pure a
  | none => exact (failsOnlyWith_note _ _).bind fun _ => failsOnlyWith_malformedKey reason

theorem Ec2Key.failsOnlyWith_point (key : Ec2Key) :
    FailsOnlyWith .invalidAttestationObject key.point :=
  failsOnlyWith_orRejectedKey _ _ _

theorem OkpKey.failsOnlyWith_point (key : OkpKey) :
    FailsOnlyWith .invalidAttestationObject key.point :=
  failsOnlyWith_orRejectedKey _ _ _

theorem RsaKey.failsOnlyWith_publicKey (key : RsaKey) :
    FailsOnlyWith .invalidAttestationObject key.publicKey :=
  failsOnlyWith_orRejectedKey _ _ _

/-! ### Parameters -/

theorem Parameters.failsOnlyWith_coordinate (label : Int) :
    FailsOnlyWith .invalidAttestationObject (Parameters.coordinate map label) :=
  (failsOnlyWith_orMalformedKey _ _).bind fun _ => failsOnlyWith_orMalformedKey _ _

theorem Parameters.failsOnlyWith_curve :
    FailsOnlyWith .invalidAttestationObject (Parameters.curve map) :=
  failsOnlyWith_orMalformedKey _ _

theorem Parameters.failsOnlyWith_refuseSecret :
    FailsOnlyWith .invalidAttestationObject (Parameters.refuseSecret map) := by
  unfold Parameters.refuseSecret
  split
  · exact failsOnlyWith_malformedKey _
  · exact failsOnlyWith_pure _

/-! ### Keys of each type -/

theorem Ec2Key.failsOnlyWith_ofParameters (algorithm : Algorithm) :
    FailsOnlyWith .invalidAttestationObject (Ec2Key.ofParameters algorithm map) := by
  refine Parameters.failsOnlyWith_refuseSecret.bind fun _ =>
    Parameters.failsOnlyWith_curve.bind fun curve => ?_
  split
  · exact failsOnlyWith_malformedKey _
  · refine (Parameters.failsOnlyWith_coordinate _).bind fun x =>
      (Parameters.failsOnlyWith_coordinate _).bind fun y => ?_
    exact (Ec2Key.failsOnlyWith_point _).bind fun _ => failsOnlyWith_pure _

theorem OkpKey.failsOnlyWith_ofParameters (algorithm : Algorithm) :
    FailsOnlyWith .invalidAttestationObject (OkpKey.ofParameters algorithm map) := by
  refine Parameters.failsOnlyWith_refuseSecret.bind fun _ =>
    Parameters.failsOnlyWith_curve.bind fun curve => ?_
  split
  · exact failsOnlyWith_malformedKey _
  · refine (Parameters.failsOnlyWith_coordinate _).bind fun x => ?_
    exact (OkpKey.failsOnlyWith_point _).bind fun _ => failsOnlyWith_pure _

theorem RsaKey.failsOnlyWith_ofParameters (algorithm : Algorithm) :
    FailsOnlyWith .invalidAttestationObject (RsaKey.ofParameters algorithm map) := by
  refine (failsOnlyWith_orMalformedKey _ _).bind fun modulus =>
    (failsOnlyWith_orMalformedKey _ _).bind fun exponent => ?_
  split
  · exact failsOnlyWith_malformedKey _
  · split
    · exact failsOnlyWith_malformedKey _
    · exact (RsaKey.failsOnlyWith_publicKey _).bind fun _ => failsOnlyWith_pure _

namespace Key

theorem failsOnlyWith_ofParameters (map : Parameters) :
    FailsOnlyWith .invalidAttestationObject (ofParameters map) := by
  unfold ofParameters
  split
  · exact failsOnlyWith_malformedKey _
  · refine (failsOnlyWith_orMalformedKey _ _).bind fun keyType =>
      (failsOnlyWith_orMalformedKey _ _).bind fun algorithm => ?_
    split
    · exact failsOnlyWith_malformedKey _
    · cases keyType with
      | ec2 => exact (Ec2Key.failsOnlyWith_ofParameters _).map _
      | okp => exact (OkpKey.failsOnlyWith_ofParameters _).map _
      | rsa => exact (RsaKey.failsOnlyWith_ofParameters _).map _

/-- Reading a key has one way to fail. -/
theorem failsOnlyWith_ofCbor (value : Cbor.Value) :
    FailsOnlyWith .invalidAttestationObject (ofCbor value) := by
  cases value with
  | map entries => exact failsOnlyWith_ofParameters entries
  | _ => exact failsOnlyWith_malformedKey _

theorem failsOnlyWith_decode (bytes : Bytes) :
    FailsOnlyWith .invalidAttestationObject (decode bytes) := by
  unfold decode
  split
  · exact failsOnlyWith_ofCbor _
  · exact failsOnlyWith_refuseWith _ _

end Key

end WebAuthn.Cose
