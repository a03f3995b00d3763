set_option autoImplicit false

namespace KeyCustody

-- The name of the key when the text has the ten segments of a key version, and otherwise the
-- text itself.
def withoutVersion (name : String) : String :=
  match List.splitOn '/' name.toList with
  | [projects, project, locations, location, keyRings, keyRing, cryptoKeys, key, versions, _] =>
      if projects = "projects".toList ∧ locations = "locations".toList ∧
          keyRings = "keyRings".toList ∧ cryptoKeys = "cryptoKeys".toList ∧
          versions = "cryptoKeyVersions".toList then
        String.ofList
          (List.intercalate ['/'] [projects, project, locations, location, keyRings, keyRing, cryptoKeys, key])
      else name
  | _ => name

structure KeyReference where
  project : String
  location : String
  keyRing : String
  key : String
  deriving DecidableEq

namespace KeyReference

def name (reference : KeyReference) : String :=
  "projects/" ++ reference.project ++ "/locations/" ++ reference.location ++ "/keyRings/" ++
    reference.keyRing ++ "/cryptoKeys/" ++ reference.key

def versionName (reference : KeyReference) (version : UInt64) : String :=
  reference.name ++ "/cryptoKeyVersions/" ++ toString version.toNat

end KeyReference
end KeyCustody
