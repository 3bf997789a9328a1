import ClusterLifecycle.Credential
import ClusterLifecycle.Identity
import ClusterLifecycle.Manifest
import ClusterLifecycle.Text.Base64
import ClusterLifecycle.Text.Utf8

/-!
The secrets of a cluster: how its components reach the cloud, and its certificate authorities.
-/

namespace ClusterLifecycle.Manifest

/-- Where nodes keep the cloud provider's configuration. -/
def cloudConfPath : String := "/etc/kubernetes/cloud.conf"

/-- The cloud provider's configuration. Values stand as they are given. -/
def cloudConf (i : Identity) (credential : Credential) : String :=
  "[Global]\n" ++
  "auth-url=" ++ i.authUrl ++ "\n" ++
  "region=" ++ i.region ++ "\n" ++
  "application-credential-id=" ++ credential.id ++ "\n" ++
  "application-credential-secret=" ++ credential.secret ++ "\n" ++
  "\n" ++
  "[LoadBalancer]\n" ++
  "use-octavia=true\n"

/-- The configuration of cloud clients. Values stand as they are given. -/
def cloudsYaml (i : Identity) (credential : Credential) : String :=
  "clouds:\n" ++
  "  default:\n" ++
  "    auth:\n" ++
  "      auth_url: " ++ i.authUrl ++ "\n" ++
  "      application_credential_id: " ++ credential.id ++ "\n" ++
  "      application_credential_secret: " ++ credential.secret ++ "\n" ++
  "    region_name: " ++ i.region ++ "\n" ++
  "    interface: " ++ i.endpoints ++ "\n" ++
  "    identity_api_version: 3\n" ++
  "    auth_type: v3applicationcredential\n"

def cloudConfigSecret (i : Identity) (target : ObjectRef) (c : Cluster) (credential : Credential) :
    Manifest where
  target
  labels := labelled [(clusterNameLabel, c.uuid.toString)]
  content := [
    ("type", "Opaque"),
    ("stringData", .object [
      ("clouds.yaml", cloudsYaml i credential),
      ("cloud.conf", cloudConf i credential),
      ("cacert", "")])]

def base64 (text : String) : String := String.ofList (Text.Base64.encode (Text.utf8 text.toList))

def authoritySecret (target : ObjectRef) (c : Cluster) (pair : KeyPair) : Manifest where
  target
  labels := labelled [(clusterNameLabel, c.uuid.toString)]
  content := [
    ("type", "cluster.x-k8s.io/secret"),
    ("data", .object [
      ("tls.crt", base64 pair.certificate),
      ("tls.key", base64 pair.privateKey)])]

end ClusterLifecycle.Manifest
