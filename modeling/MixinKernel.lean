import MixinKernel.Common
import MixinKernel.Pool
import MixinKernel.Kernel
import MixinKernel.Gate
import MixinKernel.Distribute
import MixinKernel.DistributeReference
import MixinKernel.Build
import MixinKernel.Issuance
import MixinKernel.Aggregate
import MixinKernel.GenesisLoader
import MixinKernel.GenesisBoot
