import FilecoinRosetta.Actor.Kind
import FilecoinRosetta.Cid

/-!
# Released actor codes

The codes of released bundles, newest first. Each is the BLAKE2b digest of
a program, given here as a number in hexadecimal. Bundles deployed later
are learned from the node.
-/

namespace FilecoinRosetta.Actor

/-- A bundle: its version, and each actor of it with the digest of its program. -/
structure Bundle where
  /-- The version of the actors. -/
  version : UInt32
  /-- The actors with the digests of their programs. -/
  programs : List (ActorKind × Nat)

/-- The content identifier of a program. -/
def programCode (digest : Nat) : Cid :=
  .v1 Cid.rawCodec ⟨Cid.blake2b256Code, bigEndian 32 digest, by simp [big_endian_length]⟩

/-- Version 10, of the calibration network. -/
def bundle10 : Bundle where
  version := 10
  programs :=
    [(.account, 0x4e5a6772afc74aabdddf79cbcae71b78b9331f72feaf18660345814eac1fd6d8),
     (.cron, 0xadac243ec49042941f5abf71ef41db79293ad5015cb9fc90ee96ff2d5c5a8e94),
     (.dataCap, 0x1d3f4ebe7f0409ec46e954d86b479ba56dbfb1b610960e51002768605c860917),
     (.eam, 0xbb46cf09f08851c8ace7ec253b36f5a7e956103f4793fb6da70be1d4baf15427),
     (.ethAccount, 0x51889f3bd5ed747af05fbe0043ad8e4845e412e7f4aa593060d86b3a6f5277d2),
     (.evm, 0x56f36503e4125056883cfd4b561a5e5b23a96ad4185e814cd8f37d14591c0771),
     (.init, 0xcf7088cb6b9b98d2e5d25e2c8220fec87fefb62e95968277d5386950e6858a58),
     (.multisig, 0x6bd30d73269f875599f4b7f613d7d4517003c0deede59a0371d9812f5b936b66),
     (.paymentChannel, 0x3ed3439c310659a5608ed3b82f6360fe4fdd4a0fa50a1ae8695a2c04ac7bd8b1),
     (.placeholder, 0xcb5a4f4cc1164c43df2ad228db8a531bd787a37e1d97553f4bdc4cf51168b717),
     (.reward, 0x37876b57e0e47e02e8748f11bf9a23894310bb9c26c9db3da3678accffa0bfb7),
     (.storageMarket, 0x84b9142e82f68880bb27bcfcd0fb3fe0fdd4cc2d230cebd03f4dd6c4974994d1),
     (.storageMiner, 0xe9c11c2bdfa285825cebf1ca9e13a27cef801d94d756d885daa473585261c1ec),
     (.storagePower, 0xe9b17bf2784ba1b2cefff0c5248bf234ee99f9c2a46a6914b5357a89b7314693),
     (.system, 0x38c9d14cee419c194309865d784f6dac82f5ba6bbf2f4d4d7dd76c78af86d943),
     (.verifiedRegistry, 0xbdfb504787b8afa8d1a24d4a29351ae4bd71e6418f01dfb5324f857838146cd1)]

/-- Version 9, of the calibration network. -/
def bundle9 : Bundle where
  version := 9
  programs :=
    [(.account, 0x2a533d16f58f04199252bfccf02b66b4db24adcdc3ca3570ce89cb1b62ed12fb),
     (.cron, 0x7e7bb2833d548ccb21630baa47502b4b72a9caddd818ad05c2efe3d2dc08772e),
     (.dataCap, 0x1acb08a92a7ddbe35fec625840ce0adb48222337b3638bd0384a77bcee65444a),
     (.init, 0xb30bbd155dd051bbae3c751bf5b8e53159499e9a8bf0337dfdd9cfdf9fd62f4d),
     (.multisig, 0xbc6623f415151d855ef8140bd9a671edb5c8db706a3064ec29c792ad52cab733),
     (.paymentChannel, 0xb8a36c254ce52ad741e59195846adbc7389ba05372620760f458a91a917e1a20),
     (.reward, 0x5ef9c0e2b7982b0d3dff8667c70078c7ac9497bd61959f6070b5c60036330529),
     (.storageMarket, 0x5451345af8f60333413e721ad661800ecae341d34bdbe13c03ae43badb0d1649),
     (.storageMiner, 0x73c6836d870cca30c721a6a038b1af1a52a1071fe576ce31c15a4a4a0aa41c36),
     (.storagePower, 0x691b812e4b316059341bab0aa0cc74b835d38828d0a71a8c3c9da10342101647),
     (.system, 0x284db734105ccdcc4259b0001f1b45aa181132bc5c744280556b249836dc8e01),
     (.verifiedRegistry, 0x4ff1a7c9fe11da8067facd04ce1cd411aa438df671a376a92026700acdd4e42a)]

/-- Version 8, of the main network. -/
def bundle8 : Bundle where
  version := 8
  programs :=
    [(.account, 0x65b7c62fd4ac43048551f6796290b56f16ae8e459ec55f2729fd8e58821ded5e),
     (.cron, 0xd05a9b02a2034559a02488ab0ee883c73eb35d303f551fac345a6928379be93a),
     (.init, 0x08966afc4da0eb34bd4e2e90981c7d90cf8febb7b05b8ea6c5093c0636c8bf3a),
     (.multisig, 0xb25cfba5ab7ded422a19a6c72aa4fb93bb3066504f5a0ac041b083d092dd3ca2),
     (.paymentChannel, 0x0d4749b311a0708fa2536deb93a507a174dc112cfce95d943f934d63998dd924),
     (.reward, 0xdab4c804ffbaa0f87231446e24812a720eb1b008284665f742326a5308e23784),
     (.storageMarket, 0x0a7fbf96180b17af12f1128618bef01e006785e2294dc64ad84902b7390c6209),
     (.storageMiner, 0x21f3732320fddb83aebd976bffa189fa6b89333cc74ee57b223b59d42d282b9c),
     (.storagePower, 0x1bf333534ba1c3cab243077d09752d09ec1572d1c4427a57ab38b1fd7c273495),
     (.system, 0xa3b800c624e248149488d2457d49c949403d147c6cfd78e8bb1331d4260ef055),
     (.verifiedRegistry, 0x88455fa29072257170ec57025e1a9d36d48517c1976e7747177bc0002fba0004)]

/-- The released bundles. -/
def bundles : List Bundle :=
  [bundle10, bundle9, bundle8]

end FilecoinRosetta.Actor
