import PrinterV1.Python.Bytes
import Mathlib.Data.String.Basic

/-!
# Pinned identities

The programs, mints and pinned documents that the sources of this directory
compare with, and the discriminators of the instructions and accounts.
-/

namespace PrinterV1.Sources

open Python

def pumpProgramId : String := "6EF8rrecthR5Dkzon8Nwu78hRvfCKubJ14M5uBEwF6P"
def pumpswapAmmProgramId : String := "pAMMBay6oceH9fJKBRHGP5D4bD4sWpmSwMn52FMfXEA"
def tokenProgramId : String := "TokenkegQfeZyiNwAJbNbGKPFXCWuBvf9Ss623VQ5DA"
def token2022ProgramId : String := "TokenzQdBNbLqP5VEhdkAS6EPFLC1PHnBqCXEpPxuEb"
def systemProgramId : String := "11111111111111111111111111111111"
def associatedTokenProgramId : String := "ATokenGPvbdGVxr1b2hvZbsiqW5xWH25efTNsLJA8knL"
def rentSysvarId : String := "SysvarRent111111111111111111111111111111111"
def metadataProgramId : String := "metaqbxxUerdq28cj1RbAWkYQm3ybzjb6a8bt518x1s"
def mayhemProgramId : String := "MAyhSmzXzV1pTf7LsNkrNwkWKTo4ougAJ1PPg47MD4e"
def wsolMint : String := "So11111111111111111111111111111111111111112"
def usdcMint : String := "EPjFWdd5AufqSSqeM2qN1xzybapC8G4wEGGkZwyTDt1v"
def pumpGlobalId : String := "4wTV1YmiEkRvAtNtsSGPtUrqRYQMe5SKy2uB4Jjaxnjf"
def pumpWithdrawAuthorityId : String := "27m9co5M6RLMFdHXzJz6ktUvN9Dm3GAmttmNrqvnEnjN"
def pumpEventAuthorityId : String := "Ce6TQqeHC9p8KetsN6JsjHK7UTZk7nasjjnr7XxXp9F1"
def pumpswapGlobalConfigId : String := "ADyA8hdefvWN2dbGGWFotbzWxrAvLW83WG6QCVXvJKqw"
def pumpswapEventAuthorityId : String := "GS4CU59F31iL7aR2Q8zVS8DRrcRnXX1yjQ66TqNVQnaR"

def pumpRepositoryCommit : String := "9c82f61cb711b044a17f770ab8ce9f9bdf78f333"
def pumpIdlSha256 : String := "b90bc471327f671449271d5d1d42354d1fae6f5a06502f5834459a3108138e49"
def pumpswapIdlSha256 : String := "6b5c7ec4e5ef9742fa99dc57b0d75b1031b379bba02a7e1b3c5a4cad68d77e56"

def pumpCreateDiscriminator : Bytes := [0x18, 0x1e, 0xc8, 0x28, 0x05, 0x1c, 0x07, 0x77]
def pumpCreateV2Discriminator : Bytes := [0xd6, 0x90, 0x4c, 0xec, 0x5f, 0x8b, 0x31, 0xb4]
def pumpMigrateDiscriminator : Bytes := [0x9b, 0xea, 0xe7, 0x92, 0xec, 0x9e, 0xa2, 0x1e]
def pumpBondingCurveDiscriminator : Bytes := [0x17, 0xb7, 0xf8, 0x37, 0x60, 0xd8, 0xac, 0x60]
def pumpswapPoolDiscriminator : Bytes := [0xf1, 0x9a, 0x6d, 0x04, 0x11, 0xb1, 0x6d, 0xbc]

/-- The bytes of an ASCII text. -/
def ascii (text : String) : Bytes := text.toList.map fun c => UInt8.ofNat c.toNat

def bondingCurveSeed : Bytes := ascii "bonding-curve"

end PrinterV1.Sources
