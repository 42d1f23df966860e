import MediaGrid.Text.Percent

/-!
# Artifacts and their ids

An artifact is an image or a video that a backend keeps under a bucket and a name. Its id
joins kind, bucket and name by colons; bucket and name are percent-encoded first, so no
colon of theirs is left and different artifacts have different ids.
-/

namespace MediaGrid

/-- The kinds of media. -/
inductive MediaKind where
  /-- A still image. -/
  | image
  /-- A video. -/
  | video
  deriving DecidableEq, Repr

/-- The word for a kind in ids. -/
def MediaKind.word : MediaKind → String
  | .image => "image"
  | .video => "video"

/-- What identifies an artifact to the backend. -/
structure Artifact where
  /-- The bucket that holds it. -/
  bucket : String
  /-- Its name in the bucket. -/
  name : String
  /-- What kind of media it is. -/
  kind : MediaKind
  deriving DecidableEq, Repr

/-- The id of an entry of the grid. Ids of artifacts have the form that `Artifact.id`
gives; any other text is an id that no entry has. -/
structure ItemId where
  /-- The id as text. -/
  text : String
  deriving DecidableEq, Repr

/-- The id of an artifact. -/
def Artifact.id (ref : Artifact) : ItemId :=
  ⟨ref.kind.word ++ ":" ++ Text.percentEncode ref.bucket ++ ":" ++ Text.percentEncode ref.name⟩

/-- Where a video can be watched directly. -/
structure VideoLinks where
  /-- A short preview. -/
  preview : String
  /-- The whole video. -/
  stream : String
  deriving DecidableEq, Repr

end MediaGrid
