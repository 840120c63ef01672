import Admission.Proofs.Json.Records
import Admission.Proofs.Time.Rfc3339
import Admission.Wire.Answer
import Admission.Wire.Request

/-!
# Everything on the wire reads back

The codecs of requests, answers and records are lawful: names of languages, statuses and error codes
belong to one value each, timestamps read back, and the fields of every record go by names of their
own.  Nothing is asked of the values: texts may hold any character, numbers any 64 bits, and
timestamps any year of the calendar with any fraction of a second.

## Main results

* `JobView.isLawful_codec`, `SessionView.isLawful_codec` and their like, one for each record.
* `every_record_round_trips`: decoding undoes encoding.
-/

namespace Admission

open Admission.Json Admission.Time

namespace Json.Codec

/-- Timestamps are lawful. -/
theorem isLawful_timestamp : timestamp.IsLawful where
  readsBack := by
    intro t
    simp only [timestamp, ofText, Timestamp.ofText?_text]
  isSound := fun _ => isSound_ofText _

theorem text_ne_null (s : String) : text.write s ≠ .null := nofun

theorem signed_ne_null (n : Int64) : signed.write n ≠ .null := nofun

end Json.Codec

open Codec

theorem Language.isLawful_codec : Language.codec.IsLawful :=
  isLawful_enumeration (by rintro (_ | _) <;> decide)

theorem JobStatus.isLawful_codec : JobStatus.codec.IsLawful :=
  isLawful_enumeration (by rintro (_ | _ | _ | _) <;> decide)

theorem SessionStatus.isLawful_codec : SessionStatus.codec.IsLawful :=
  isLawful_enumeration (by rintro (_ | _) <;> decide)

theorem ErrorCode.isLawful_codec : ErrorCode.codec.IsLawful :=
  isLawful_enumeration (by rintro (_ | _ | _ | _ | _) <;> decide)

/-! ## Fields of every kind -/

namespace Json.Field

theorem isLawful_text (name : String) : (required name .text).IsLawful :=
  isLawful_required name Codec.isLawful_text

theorem isLawful_timestamp (name : String) : (required name .timestamp).IsLawful :=
  isLawful_required name Codec.isLawful_timestamp

theorem isLawful_nullableText (name : String) (aliases : List String) :
    (nullable name aliases .text).IsLawful :=
  isLawful_nullable name aliases Codec.isLawful_text text_ne_null

theorem isLawful_omissibleText (name : String) : (omissible name .text).IsLawful :=
  isLawful_omissible name Codec.isLawful_text text_ne_null

end Json.Field

open Field

/-! ## Requests -/

theorem JobForm.isLawful_codec : JobForm.codec.IsLawful :=
  Record.isLawful_codec
    ⟨isLawful_omissibleText _, isLawful_nullableText _ _, isLawful_nullableText _ _,
      isLawful_nullableText _ _, isLawful_nullableText _ _, isLawful_nullableText _ _, trivial⟩
    (by decide) fun _ => rfl

theorem SessionForm.isLawful_codec : SessionForm.codec.IsLawful :=
  Record.isLawful_codec
    ⟨isLawful_omissibleText _, isLawful_nullableText _ _, isLawful_nullableText _ _,
      isLawful_nullableText _ _, isLawful_nullable _ _ isLawful_signed signed_ne_null, trivial⟩
    (by decide) fun _ => rfl

/-! ## Answers -/

theorem JobAccepted.isLawful_codec : JobAccepted.codec.IsLawful :=
  Record.isLawful_codec
    ⟨isLawful_text _, isLawful_required _ JobStatus.isLawful_codec, trivial⟩
    (by decide) fun _ => rfl

theorem JobView.isLawful_codec : JobView.codec.IsLawful :=
  Record.isLawful_codec
    ⟨isLawful_text _, isLawful_text _, isLawful_text _, isLawful_text _,
      isLawful_required _ Language.isLawful_codec, isLawful_required _ JobStatus.isLawful_codec,
      isLawful_timestamp _, trivial⟩
    (by decide) fun _ => rfl

theorem SessionCreated.isLawful_codec : SessionCreated.codec.IsLawful :=
  Record.isLawful_codec
    ⟨isLawful_text _, isLawful_timestamp _, isLawful_required _ SessionStatus.isLawful_codec,
      trivial⟩
    (by decide) fun _ => rfl

theorem SessionView.isLawful_codec : SessionView.codec.IsLawful :=
  Record.isLawful_codec
    ⟨isLawful_text _, isLawful_text _, isLawful_text _, isLawful_text _,
      isLawful_required _ isLawful_unsigned, isLawful_timestamp _, isLawful_timestamp _,
      isLawful_required _ SessionStatus.isLawful_codec, trivial⟩
    (by decide) fun _ => rfl

theorem ErrorBody.isLawful_codec : ErrorBody.codec.IsLawful :=
  Record.isLawful_codec
    ⟨isLawful_required _ ErrorCode.isLawful_codec, isLawful_text _, isLawful_omissibleText _,
      trivial⟩
    (by decide) fun _ => rfl

/-! ## Records -/

theorem Job.isLawful_codec : Job.codec.IsLawful :=
  Record.isLawful_codec
    ⟨isLawful_text _, isLawful_text _, isLawful_text _, isLawful_text _,
      isLawful_required _ Language.isLawful_codec, isLawful_text _,
      isLawful_required _ JobStatus.isLawful_codec, isLawful_timestamp _, trivial⟩
    (by decide) fun _ => rfl

theorem Session.isLawful_codec : Session.codec.IsLawful :=
  Record.isLawful_codec
    ⟨isLawful_text _, isLawful_text _, isLawful_text _, isLawful_text _,
      isLawful_required _ isLawful_unsigned, isLawful_timestamp _, isLawful_timestamp _, trivial⟩
    (by decide) fun _ => rfl

/-- **Decoding undoes encoding.**  Whatever the value of a form, an answer or a record, the text that
it is written as is decoded as a value of the same type, and the value is the one that was
written. -/
theorem every_record_round_trips :
    JobForm.codec.RoundTrips ∧ SessionForm.codec.RoundTrips ∧
      JobAccepted.codec.RoundTrips ∧ JobView.codec.RoundTrips ∧
      SessionCreated.codec.RoundTrips ∧ SessionView.codec.RoundTrips ∧
      ErrorBody.codec.RoundTrips ∧ Job.codec.RoundTrips ∧ Session.codec.RoundTrips :=
  ⟨JobForm.isLawful_codec.roundTrips, SessionForm.isLawful_codec.roundTrips,
    JobAccepted.isLawful_codec.roundTrips, JobView.isLawful_codec.roundTrips,
    SessionCreated.isLawful_codec.roundTrips, SessionView.isLawful_codec.roundTrips,
    ErrorBody.isLawful_codec.roundTrips, Job.isLawful_codec.roundTrips,
    Session.isLawful_codec.roundTrips⟩

end Admission
