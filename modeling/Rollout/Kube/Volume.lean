import Rollout.Kube.Claim
import Rollout.Kube.Environment

/-!
Volumes of pods and where they come from.
-/

namespace Rollout.Kube

open Fields (object optional zeroed)

/-! ### Files from the cluster -/

/-- A key and the file that it is put into. -/
structure KeyToPath where
  key : String := ""
  mode : Option Int32 := none
  path : String := ""

def KeyToPath.codec : Codec KeyToPath := object <|
  KeyToPath.mk <$> zeroed "key" .text "" KeyToPath.key
    <*> optional "mode" .int32 KeyToPath.mode
    <*> zeroed "path" .text "" KeyToPath.path

/-- The files of a secret. -/
structure SecretVolume where
  defaultMode : Option Int32 := none
  items : Option (List KeyToPath) := none
  isOptional : Option Bool := none
  secretName : Option String := none

def SecretVolume.codec : Codec SecretVolume := object <|
  SecretVolume.mk <$> optional "defaultMode" .int32 SecretVolume.defaultMode
    <*> optional "items" (.list KeyToPath.codec) SecretVolume.items
    <*> optional "optional" .bool SecretVolume.isOptional
    <*> optional "secretName" .text SecretVolume.secretName

/-- The files of a config map. -/
structure ConfigMapVolume where
  defaultMode : Option Int32 := none
  items : Option (List KeyToPath) := none
  name : String := ""
  isOptional : Option Bool := none

def ConfigMapVolume.codec : Codec ConfigMapVolume := object <|
  ConfigMapVolume.mk <$> optional "defaultMode" .int32 ConfigMapVolume.defaultMode
    <*> optional "items" (.list KeyToPath.codec) ConfigMapVolume.items
    <*> zeroed "name" .text "" ConfigMapVolume.name
    <*> optional "optional" .bool ConfigMapVolume.isOptional

/-- A file that tells something about the pod. -/
structure DownwardApiFile where
  fieldRef : Option ObjectFieldSelector := none
  mode : Option Int32 := none
  path : String := ""
  resourceFieldRef : Option ResourceFieldSelector := none

def DownwardApiFile.codec : Codec DownwardApiFile := object <|
  DownwardApiFile.mk <$> optional "fieldRef" ObjectFieldSelector.codec DownwardApiFile.fieldRef
    <*> optional "mode" .int32 DownwardApiFile.mode
    <*> zeroed "path" .text "" DownwardApiFile.path
    <*> optional "resourceFieldRef" ResourceFieldSelector.codec DownwardApiFile.resourceFieldRef

/-- Files that tell something about the pod. -/
structure DownwardApiVolume where
  defaultMode : Option Int32 := none
  items : Option (List DownwardApiFile) := none

def DownwardApiVolume.codec : Codec DownwardApiVolume := object <|
  DownwardApiVolume.mk <$> optional "defaultMode" .int32 DownwardApiVolume.defaultMode
    <*> optional "items" (.list DownwardApiFile.codec) DownwardApiVolume.items

/-- The certificates that a signer is trusted with. -/
structure ClusterTrustBundleProjection where
  labelSelector : Option LabelSelector := none
  name : Option String := none
  isOptional : Option Bool := none
  path : String := ""
  signerName : Option String := none

def ClusterTrustBundleProjection.codec : Codec ClusterTrustBundleProjection := object <|
  ClusterTrustBundleProjection.mk <$> optional "labelSelector" LabelSelector.codec
      ClusterTrustBundleProjection.labelSelector
    <*> optional "name" .text ClusterTrustBundleProjection.name
    <*> optional "optional" .bool ClusterTrustBundleProjection.isOptional
    <*> zeroed "path" .text "" ClusterTrustBundleProjection.path
    <*> optional "signerName" .text ClusterTrustBundleProjection.signerName

/-- The files of a config map or of a secret, among others. -/
structure KeysProjection where
  items : Option (List KeyToPath) := none
  name : String := ""
  isOptional : Option Bool := none

def KeysProjection.codec : Codec KeysProjection := object <|
  KeysProjection.mk <$> optional "items" (.list KeyToPath.codec) KeysProjection.items
    <*> zeroed "name" .text "" KeysProjection.name
    <*> optional "optional" .bool KeysProjection.isOptional

/-- Files that tell something about the pod, among others. -/
structure DownwardApiProjection where
  items : Option (List DownwardApiFile) := none

def DownwardApiProjection.codec : Codec DownwardApiProjection := object <|
  DownwardApiProjection.mk <$> optional "items" (.list DownwardApiFile.codec)
      DownwardApiProjection.items

/-- A key and a certificate for the pod. -/
structure PodCertificateProjection where
  certificateChainPath : Option String := none
  credentialBundlePath : Option String := none
  keyPath : Option String := none
  keyType : String := ""
  maxExpirationSeconds : Option Int32 := none
  signerName : String := ""
  userAnnotations : Option (KeyMap String) := none

def PodCertificateProjection.codec : Codec PodCertificateProjection := object <|
  PodCertificateProjection.mk <$> optional "certificateChainPath" .text
      PodCertificateProjection.certificateChainPath
    <*> optional "credentialBundlePath" .text PodCertificateProjection.credentialBundlePath
    <*> optional "keyPath" .text PodCertificateProjection.keyPath
    <*> zeroed "keyType" .text "" PodCertificateProjection.keyType
    <*> optional "maxExpirationSeconds" .int32 PodCertificateProjection.maxExpirationSeconds
    <*> zeroed "signerName" .text "" PodCertificateProjection.signerName
    <*> optional "userAnnotations" (.map .text) PodCertificateProjection.userAnnotations

/-- A token of the account that a pod runs under. -/
structure ServiceAccountTokenProjection where
  audience : Option String := none
  expirationSeconds : Option Int64 := none
  path : String := ""

def ServiceAccountTokenProjection.codec : Codec ServiceAccountTokenProjection := object <|
  ServiceAccountTokenProjection.mk <$> optional "audience" .text
      ServiceAccountTokenProjection.audience
    <*> optional "expirationSeconds" .int64 ServiceAccountTokenProjection.expirationSeconds
    <*> zeroed "path" .text "" ServiceAccountTokenProjection.path

/-- One source of files among others. -/
structure VolumeProjection where
  clusterTrustBundle : Option ClusterTrustBundleProjection := none
  configMap : Option KeysProjection := none
  downwardApi : Option DownwardApiProjection := none
  podCertificate : Option PodCertificateProjection := none
  secret : Option KeysProjection := none
  serviceAccountToken : Option ServiceAccountTokenProjection := none

def VolumeProjection.codec : Codec VolumeProjection := object <|
  VolumeProjection.mk <$> optional "clusterTrustBundle" ClusterTrustBundleProjection.codec
      VolumeProjection.clusterTrustBundle
    <*> optional "configMap" KeysProjection.codec VolumeProjection.configMap
    <*> optional "downwardAPI" DownwardApiProjection.codec VolumeProjection.downwardApi
    <*> optional "podCertificate" PodCertificateProjection.codec VolumeProjection.podCertificate
    <*> optional "secret" KeysProjection.codec VolumeProjection.secret
    <*> optional "serviceAccountToken" ServiceAccountTokenProjection.codec
      VolumeProjection.serviceAccountToken

/-- Files from several sources. -/
structure ProjectedVolume where
  defaultMode : Option Int32 := none
  sources : Option (List VolumeProjection) := none

def ProjectedVolume.codec : Codec ProjectedVolume := object <|
  ProjectedVolume.mk <$> optional "defaultMode" .int32 ProjectedVolume.defaultMode
    <*> optional "sources" (.list VolumeProjection.codec) ProjectedVolume.sources

/-- The files of an image. -/
structure ImageVolume where
  pullPolicy : Option String := none
  reference : Option String := none

def ImageVolume.codec : Codec ImageVolume := object <|
  ImageVolume.mk <$> optional "pullPolicy" .text ImageVolume.pullPolicy
    <*> optional "reference" .text ImageVolume.reference

/-- The files of a repository. -/
structure GitRepoVolume where
  directory : Option String := none
  repository : String := ""
  revision : Option String := none

def GitRepoVolume.codec : Codec GitRepoVolume := object <|
  GitRepoVolume.mk <$> optional "directory" .text GitRepoVolume.directory
    <*> zeroed "repository" .text "" GitRepoVolume.repository
    <*> optional "revision" .text GitRepoVolume.revision

/-! ### Storage of the pod and of its node -/

/-- A directory that lives as long as its pod. -/
structure EmptyDirVolume where
  medium : Option String := none
  sizeLimit : Option Quantity := none

def EmptyDirVolume.codec : Codec EmptyDirVolume := object <|
  EmptyDirVolume.mk <$> optional "medium" .text EmptyDirVolume.medium
    <*> optional "sizeLimit" Quantity.codec EmptyDirVolume.sizeLimit

/-- A file or directory of the node. -/
structure HostPathVolume where
  path : String := ""
  type : Option String := none

def HostPathVolume.codec : Codec HostPathVolume := object <|
  HostPathVolume.mk <$> zeroed "path" .text "" HostPathVolume.path
    <*> optional "type" .text HostPathVolume.type

/-- The volume bound to a claim. -/
structure ClaimVolume where
  claimName : String := ""
  readOnly : Option Bool := none

def ClaimVolume.codec : Codec ClaimVolume := object <|
  ClaimVolume.mk <$> zeroed "claimName" .text "" ClaimVolume.claimName
    <*> optional "readOnly" .bool ClaimVolume.readOnly

/-- A volume that is claimed for its pod and lives as long as it. -/
structure EphemeralVolume where
  volumeClaimTemplate : Option PersistentVolumeClaimTemplate := none

def EphemeralVolume.codec : Codec EphemeralVolume := object <|
  EphemeralVolume.mk <$> optional "volumeClaimTemplate" PersistentVolumeClaimTemplate.codec
      EphemeralVolume.volumeClaimTemplate

/-! ### Storage of other systems -/

/-- A disk of Amazon Web Services. -/
structure AwsElasticBlockStoreVolume where
  fsType : Option String := none
  partition : Option Int32 := none
  readOnly : Option Bool := none
  volumeId : String := ""

def AwsElasticBlockStoreVolume.codec : Codec AwsElasticBlockStoreVolume := object <|
  AwsElasticBlockStoreVolume.mk <$> optional "fsType" .text AwsElasticBlockStoreVolume.fsType
    <*> optional "partition" .int32 AwsElasticBlockStoreVolume.partition
    <*> optional "readOnly" .bool AwsElasticBlockStoreVolume.readOnly
    <*> zeroed "volumeID" .text "" AwsElasticBlockStoreVolume.volumeId

/-- A disk of Azure. -/
structure AzureDiskVolume where
  cachingMode : Option String := none
  diskName : String := ""
  diskUri : String := ""
  fsType : Option String := none
  kind : Option String := none
  readOnly : Option Bool := none

def AzureDiskVolume.codec : Codec AzureDiskVolume := object <|
  AzureDiskVolume.mk <$> optional "cachingMode" .text AzureDiskVolume.cachingMode
    <*> zeroed "diskName" .text "" AzureDiskVolume.diskName
    <*> zeroed "diskURI" .text "" AzureDiskVolume.diskUri
    <*> optional "fsType" .text AzureDiskVolume.fsType
    <*> optional "kind" .text AzureDiskVolume.kind
    <*> optional "readOnly" .bool AzureDiskVolume.readOnly

/-- A share of Azure. -/
structure AzureFileVolume where
  readOnly : Option Bool := none
  secretName : String := ""
  shareName : String := ""

def AzureFileVolume.codec : Codec AzureFileVolume := object <|
  AzureFileVolume.mk <$> optional "readOnly" .bool AzureFileVolume.readOnly
    <*> zeroed "secretName" .text "" AzureFileVolume.secretName
    <*> zeroed "shareName" .text "" AzureFileVolume.shareName

/-- A directory of Ceph. -/
structure CephFsVolume where
  monitors : List String := []
  path : Option String := none
  readOnly : Option Bool := none
  secretFile : Option String := none
  secretRef : Option LocalObjectReference := none
  user : Option String := none

def CephFsVolume.codec : Codec CephFsVolume := object <|
  CephFsVolume.mk <$> zeroed "monitors" (.list .text) [] CephFsVolume.monitors
    <*> optional "path" .text CephFsVolume.path
    <*> optional "readOnly" .bool CephFsVolume.readOnly
    <*> optional "secretFile" .text CephFsVolume.secretFile
    <*> optional "secretRef" LocalObjectReference.codec CephFsVolume.secretRef
    <*> optional "user" .text CephFsVolume.user

/-- A volume of OpenStack. -/
structure CinderVolume where
  fsType : Option String := none
  readOnly : Option Bool := none
  secretRef : Option LocalObjectReference := none
  volumeId : String := ""

def CinderVolume.codec : Codec CinderVolume := object <|
  CinderVolume.mk <$> optional "fsType" .text CinderVolume.fsType
    <*> optional "readOnly" .bool CinderVolume.readOnly
    <*> optional "secretRef" LocalObjectReference.codec CinderVolume.secretRef
    <*> zeroed "volumeID" .text "" CinderVolume.volumeId

/-- A volume that a driver for container storage provides. -/
structure CsiVolume where
  driver : String := ""
  fsType : Option String := none
  nodePublishSecretRef : Option LocalObjectReference := none
  readOnly : Option Bool := none
  volumeAttributes : Option (KeyMap String) := none

def CsiVolume.codec : Codec CsiVolume := object <|
  CsiVolume.mk <$> zeroed "driver" .text "" CsiVolume.driver
    <*> optional "fsType" .text CsiVolume.fsType
    <*> optional "nodePublishSecretRef" LocalObjectReference.codec CsiVolume.nodePublishSecretRef
    <*> optional "readOnly" .bool CsiVolume.readOnly
    <*> optional "volumeAttributes" (.map .text) CsiVolume.volumeAttributes

/-- A volume behind Fibre Channel. -/
structure FcVolume where
  fsType : Option String := none
  lun : Option Int32 := none
  readOnly : Option Bool := none
  targetWwns : Option (List String) := none
  wwids : Option (List String) := none

def FcVolume.codec : Codec FcVolume := object <|
  FcVolume.mk <$> optional "fsType" .text FcVolume.fsType
    <*> optional "lun" .int32 FcVolume.lun
    <*> optional "readOnly" .bool FcVolume.readOnly
    <*> optional "targetWWNs" (.list .text) FcVolume.targetWwns
    <*> optional "wwids" (.list .text) FcVolume.wwids

/-- A volume that a driver on the node provides. -/
structure FlexVolume where
  driver : String := ""
  fsType : Option String := none
  options : Option (KeyMap String) := none
  readOnly : Option Bool := none
  secretRef : Option LocalObjectReference := none

def FlexVolume.codec : Codec FlexVolume := object <|
  FlexVolume.mk <$> zeroed "driver" .text "" FlexVolume.driver
    <*> optional "fsType" .text FlexVolume.fsType
    <*> optional "options" (.map .text) FlexVolume.options
    <*> optional "readOnly" .bool FlexVolume.readOnly
    <*> optional "secretRef" LocalObjectReference.codec FlexVolume.secretRef

/-- A volume of Flocker. -/
structure FlockerVolume where
  datasetName : Option String := none
  datasetUuid : Option String := none

def FlockerVolume.codec : Codec FlockerVolume := object <|
  FlockerVolume.mk <$> optional "datasetName" .text FlockerVolume.datasetName
    <*> optional "datasetUUID" .text FlockerVolume.datasetUuid

/-- A disk of Google Cloud. -/
structure GcePersistentDiskVolume where
  fsType : Option String := none
  partition : Option Int32 := none
  pdName : String := ""
  readOnly : Option Bool := none

def GcePersistentDiskVolume.codec : Codec GcePersistentDiskVolume := object <|
  GcePersistentDiskVolume.mk <$> optional "fsType" .text GcePersistentDiskVolume.fsType
    <*> optional "partition" .int32 GcePersistentDiskVolume.partition
    <*> zeroed "pdName" .text "" GcePersistentDiskVolume.pdName
    <*> optional "readOnly" .bool GcePersistentDiskVolume.readOnly

/-- A volume of Gluster. -/
structure GlusterfsVolume where
  endpoints : String := ""
  path : String := ""
  readOnly : Option Bool := none

def GlusterfsVolume.codec : Codec GlusterfsVolume := object <|
  GlusterfsVolume.mk <$> zeroed "endpoints" .text "" GlusterfsVolume.endpoints
    <*> zeroed "path" .text "" GlusterfsVolume.path
    <*> optional "readOnly" .bool GlusterfsVolume.readOnly

/-- A volume behind iSCSI. -/
structure IscsiVolume where
  chapAuthDiscovery : Option Bool := none
  chapAuthSession : Option Bool := none
  fsType : Option String := none
  initiatorName : Option String := none
  iqn : String := ""
  iscsiInterface : Option String := none
  lun : Int32 := 0
  portals : Option (List String) := none
  readOnly : Option Bool := none
  secretRef : Option LocalObjectReference := none
  targetPortal : String := ""

def IscsiVolume.codec : Codec IscsiVolume := object <|
  IscsiVolume.mk <$> optional "chapAuthDiscovery" .bool IscsiVolume.chapAuthDiscovery
    <*> optional "chapAuthSession" .bool IscsiVolume.chapAuthSession
    <*> optional "fsType" .text IscsiVolume.fsType
    <*> optional "initiatorName" .text IscsiVolume.initiatorName
    <*> zeroed "iqn" .text "" IscsiVolume.iqn
    <*> optional "iscsiInterface" .text IscsiVolume.iscsiInterface
    <*> zeroed "lun" .int32 0 IscsiVolume.lun
    <*> optional "portals" (.list .text) IscsiVolume.portals
    <*> optional "readOnly" .bool IscsiVolume.readOnly
    <*> optional "secretRef" LocalObjectReference.codec IscsiVolume.secretRef
    <*> zeroed "targetPortal" .text "" IscsiVolume.targetPortal

/-- A directory of a network file system. -/
structure NfsVolume where
  path : String := ""
  readOnly : Option Bool := none
  server : String := ""

def NfsVolume.codec : Codec NfsVolume := object <|
  NfsVolume.mk <$> zeroed "path" .text "" NfsVolume.path
    <*> optional "readOnly" .bool NfsVolume.readOnly
    <*> zeroed "server" .text "" NfsVolume.server

/-- A disk of Photon. -/
structure PhotonPersistentDiskVolume where
  fsType : Option String := none
  pdId : String := ""

def PhotonPersistentDiskVolume.codec : Codec PhotonPersistentDiskVolume := object <|
  PhotonPersistentDiskVolume.mk <$> optional "fsType" .text PhotonPersistentDiskVolume.fsType
    <*> zeroed "pdID" .text "" PhotonPersistentDiskVolume.pdId

/-- A volume of Portworx. -/
structure PortworxVolume where
  fsType : Option String := none
  readOnly : Option Bool := none
  volumeId : String := ""

def PortworxVolume.codec : Codec PortworxVolume := object <|
  PortworxVolume.mk <$> optional "fsType" .text PortworxVolume.fsType
    <*> optional "readOnly" .bool PortworxVolume.readOnly
    <*> zeroed "volumeID" .text "" PortworxVolume.volumeId

/-- A volume of Quobyte. -/
structure QuobyteVolume where
  group : Option String := none
  readOnly : Option Bool := none
  registry : String := ""
  tenant : Option String := none
  user : Option String := none
  volume : String := ""

def QuobyteVolume.codec : Codec QuobyteVolume := object <|
  QuobyteVolume.mk <$> optional "group" .text QuobyteVolume.group
    <*> optional "readOnly" .bool QuobyteVolume.readOnly
    <*> zeroed "registry" .text "" QuobyteVolume.registry
    <*> optional "tenant" .text QuobyteVolume.tenant
    <*> optional "user" .text QuobyteVolume.user
    <*> zeroed "volume" .text "" QuobyteVolume.volume

/-- A block device of Ceph. -/
structure RbdVolume where
  fsType : Option String := none
  image : String := ""
  keyring : Option String := none
  monitors : List String := []
  pool : Option String := none
  readOnly : Option Bool := none
  secretRef : Option LocalObjectReference := none
  user : Option String := none

def RbdVolume.codec : Codec RbdVolume := object <|
  RbdVolume.mk <$> optional "fsType" .text RbdVolume.fsType
    <*> zeroed "image" .text "" RbdVolume.image
    <*> optional "keyring" .text RbdVolume.keyring
    <*> zeroed "monitors" (.list .text) [] RbdVolume.monitors
    <*> optional "pool" .text RbdVolume.pool
    <*> optional "readOnly" .bool RbdVolume.readOnly
    <*> optional "secretRef" LocalObjectReference.codec RbdVolume.secretRef
    <*> optional "user" .text RbdVolume.user

/-- A volume of ScaleIO. -/
structure ScaleIoVolume where
  fsType : Option String := none
  gateway : String := ""
  protectionDomain : Option String := none
  readOnly : Option Bool := none
  secretRef : LocalObjectReference := {}
  sslEnabled : Option Bool := none
  storageMode : Option String := none
  storagePool : Option String := none
  system : String := ""
  volumeName : Option String := none

def ScaleIoVolume.codec : Codec ScaleIoVolume := object <|
  ScaleIoVolume.mk <$> optional "fsType" .text ScaleIoVolume.fsType
    <*> zeroed "gateway" .text "" ScaleIoVolume.gateway
    <*> optional "protectionDomain" .text ScaleIoVolume.protectionDomain
    <*> optional "readOnly" .bool ScaleIoVolume.readOnly
    <*> zeroed "secretRef" LocalObjectReference.codec {} ScaleIoVolume.secretRef
    <*> optional "sslEnabled" .bool ScaleIoVolume.sslEnabled
    <*> optional "storageMode" .text ScaleIoVolume.storageMode
    <*> optional "storagePool" .text ScaleIoVolume.storagePool
    <*> zeroed "system" .text "" ScaleIoVolume.system
    <*> optional "volumeName" .text ScaleIoVolume.volumeName

/-- A volume of StorageOS. -/
structure StorageOsVolume where
  fsType : Option String := none
  readOnly : Option Bool := none
  secretRef : Option LocalObjectReference := none
  volumeName : Option String := none
  volumeNamespace : Option String := none

def StorageOsVolume.codec : Codec StorageOsVolume := object <|
  StorageOsVolume.mk <$> optional "fsType" .text StorageOsVolume.fsType
    <*> optional "readOnly" .bool StorageOsVolume.readOnly
    <*> optional "secretRef" LocalObjectReference.codec StorageOsVolume.secretRef
    <*> optional "volumeName" .text StorageOsVolume.volumeName
    <*> optional "volumeNamespace" .text StorageOsVolume.volumeNamespace

/-- A disk of vSphere. -/
structure VsphereVirtualDiskVolume where
  fsType : Option String := none
  storagePolicyId : Option String := none
  storagePolicyName : Option String := none
  volumePath : String := ""

def VsphereVirtualDiskVolume.codec : Codec VsphereVirtualDiskVolume := object <|
  VsphereVirtualDiskVolume.mk <$> optional "fsType" .text VsphereVirtualDiskVolume.fsType
    <*> optional "storagePolicyID" .text VsphereVirtualDiskVolume.storagePolicyId
    <*> optional "storagePolicyName" .text VsphereVirtualDiskVolume.storagePolicyName
    <*> zeroed "volumePath" .text "" VsphereVirtualDiskVolume.volumePath

/-! ### Volumes -/

/-- A named volume and where it comes from. -/
structure Volume where
  awsElasticBlockStore : Option AwsElasticBlockStoreVolume := none
  azureDisk : Option AzureDiskVolume := none
  azureFile : Option AzureFileVolume := none
  cephfs : Option CephFsVolume := none
  cinder : Option CinderVolume := none
  configMap : Option ConfigMapVolume := none
  csi : Option CsiVolume := none
  downwardApi : Option DownwardApiVolume := none
  emptyDir : Option EmptyDirVolume := none
  ephemeral : Option EphemeralVolume := none
  fc : Option FcVolume := none
  flexVolume : Option FlexVolume := none
  flocker : Option FlockerVolume := none
  gcePersistentDisk : Option GcePersistentDiskVolume := none
  gitRepo : Option GitRepoVolume := none
  glusterfs : Option GlusterfsVolume := none
  hostPath : Option HostPathVolume := none
  image : Option ImageVolume := none
  iscsi : Option IscsiVolume := none
  name : String := ""
  nfs : Option NfsVolume := none
  persistentVolumeClaim : Option ClaimVolume := none
  photonPersistentDisk : Option PhotonPersistentDiskVolume := none
  portworxVolume : Option PortworxVolume := none
  projected : Option ProjectedVolume := none
  quobyte : Option QuobyteVolume := none
  rbd : Option RbdVolume := none
  scaleIo : Option ScaleIoVolume := none
  secret : Option SecretVolume := none
  storageos : Option StorageOsVolume := none
  vsphereVolume : Option VsphereVirtualDiskVolume := none

def Volume.codec : Codec Volume := object <|
  Volume.mk <$> optional "awsElasticBlockStore" AwsElasticBlockStoreVolume.codec
      Volume.awsElasticBlockStore
    <*> optional "azureDisk" AzureDiskVolume.codec Volume.azureDisk
    <*> optional "azureFile" AzureFileVolume.codec Volume.azureFile
    <*> optional "cephfs" CephFsVolume.codec Volume.cephfs
    <*> optional "cinder" CinderVolume.codec Volume.cinder
    <*> optional "configMap" ConfigMapVolume.codec Volume.configMap
    <*> optional "csi" CsiVolume.codec Volume.csi
    <*> optional "downwardAPI" DownwardApiVolume.codec Volume.downwardApi
    <*> optional "emptyDir" EmptyDirVolume.codec Volume.emptyDir
    <*> optional "ephemeral" EphemeralVolume.codec Volume.ephemeral
    <*> optional "fc" FcVolume.codec Volume.fc
    <*> optional "flexVolume" FlexVolume.codec Volume.flexVolume
    <*> optional "flocker" FlockerVolume.codec Volume.flocker
    <*> optional "gcePersistentDisk" GcePersistentDiskVolume.codec Volume.gcePersistentDisk
    <*> optional "gitRepo" GitRepoVolume.codec Volume.gitRepo
    <*> optional "glusterfs" GlusterfsVolume.codec Volume.glusterfs
    <*> optional "hostPath" HostPathVolume.codec Volume.hostPath
    <*> optional "image" ImageVolume.codec Volume.image
    <*> optional "iscsi" IscsiVolume.codec Volume.iscsi
    <*> zeroed "name" .text "" Volume.name
    <*> optional "nfs" NfsVolume.codec Volume.nfs
    <*> optional "persistentVolumeClaim" ClaimVolume.codec Volume.persistentVolumeClaim
    <*> optional "photonPersistentDisk" PhotonPersistentDiskVolume.codec Volume.photonPersistentDisk
    <*> optional "portworxVolume" PortworxVolume.codec Volume.portworxVolume
    <*> optional "projected" ProjectedVolume.codec Volume.projected
    <*> optional "quobyte" QuobyteVolume.codec Volume.quobyte
    <*> optional "rbd" RbdVolume.codec Volume.rbd
    <*> optional "scaleIO" ScaleIoVolume.codec Volume.scaleIo
    <*> optional "secret" SecretVolume.codec Volume.secret
    <*> optional "storageos" StorageOsVolume.codec Volume.storageos
    <*> optional "vsphereVolume" VsphereVirtualDiskVolume.codec Volume.vsphereVolume

end Rollout.Kube
